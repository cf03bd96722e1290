import Mathlib
import GuildCards.Proofs.Play.Deeds
import GuildCards.Proofs.Play.History
import GuildCards.Proofs.Play.Legality

/-!
A conditional that costs cards pays out once, with the last card. From its acceptance on the credits
of the player tell how many cards are still to be discarded, whatever else the player does
meanwhile; no other answer and no new card comes in between. The benefit is recorded and nothing
reads it before the last discard, so it makes no difference to a turn that ends sooner.
-/
namespace GuildCards
open Document Effect

variable {rules : Rulebook String} {shuffle : Shuffler String Int} {s t : State String Int}
  {p q : Player String Int} {r : Played String Int} {m : Move} {d : Deferred} {b : Benefit}
  {done : List Move}

def discards (done : List Move) : Nat := done.countP fun m => m.kind = .discard

theorem discards_append_of_discard (hm : m.kind = .discard) :
    discards (done ++ [m]) = discards done + 1 := by
  rw [discards, List.countP_append, List.countP_singleton, if_pos (decide_eq_true hm)]
  rfl

namespace Player

/-- A player after some moves that bring nothing: each has used up one of its resource. -/
structure Used (p : Player String Int) (done : List Move) (q : Player String Int) : Prop where
  id : q.id = p.id
  holds : ∀ x, q.holds x = p.holds x - done.countP fun m => m.kind.uses? = some x

theorem used_nil (p : Player String Int) : p.Used [] p := ⟨rfl, fun _ => (sub_zero _).symm⟩

theorem Used.spend {x : Resource} {u : Player String Int} (h : p.Used done q) (hu : q.Uses x u)
    (hm : m.kind.uses? = some x) : p.Used (done ++ [m]) u := by
  refine ⟨hu.id.trans h.id, fun y => ?_⟩
  have hone : [m].countP (fun m => m.kind.uses? = some y) = if y = x then 1 else 0 := by
    rw [List.countP_singleton, hm]
    simp [eq_comm]
  rw [hu.holds y, h.holds y, List.countP_append, hone]
  split_ifs <;> omega

theorem Used.discards (h : p.Used done q) :
    q.counters.discard = p.counters.discard - GuildCards.discards done := by
  have hsame : done.countP (fun m => m.kind.uses? = some (.counter .discard)) =
      GuildCards.discards done := by
    simp only [MoveKind.uses?_discard, GuildCards.discards]
  exact hsame ▸ h.holds (.counter .discard)

end Player

namespace Deferred

/-- After some moves what is deferred is still to come: the turn goes on, and discards are owed. -/
structure Awaits (d : Deferred) (done : List Move) : Prop where
  goesOn : ∀ m ∈ done, m.kind ≠ .endTurn ∧ m.kind ≠ .consolidate
  owed : (discards done : Int) < d.intent.cost.amount

theorem Awaits.of_append {more : List Move} (h : d.Awaits (done ++ more)) : d.Awaits done := by
  refine ⟨fun m hm => h.goesOn m (List.mem_append_left _ hm), ?_⟩
  have howed := h.owed
  rw [discards, List.countP_append] at howed
  unfold discards
  omega

end Deferred

/-- The turn of a player has ended with nothing granted: what a turn leaves is what it was. -/
structure State.Lapsed (s : State String Int) (p : Player String Int) (t : State String Int) :
    Prop where
  deferred : t.deferred = none
  player : ∃ q, t.players = (s.withPlayer q).players ∧ q.id = p.id ∧
    q.counters = p.counters.endTurn ∧ q.armies = p.armies

/-- While discards are owed for what is deferred, a move uses up something, is the last discard or
ends the turn. -/
theorem Deed.of_deferred (h : Deed s p m t) (hstarted : s.phase ≠ .setup)
    (hd : s.deferred = some d) (hchoices : s.choices = []) (howed : 0 < p.counters.discard) :
    (∃ x q, s.Goes p q t ∧ m.kind.uses? = some x ∧ p.Uses x q ∧ t.choices = s.choices ∧
        t.conditionals = s.conditionals ∧ t.deferred = s.deferred) ∨
      (m.kind = .discard ∧ p.counters.discard ≤ 1) ∨
      ((m.kind = .endTurn ∨ m.kind = .consolidate) ∧ s.Lapsed p t) := by
  cases h with
  | spending x q goes hm hx choices conditionals deferred owing =>
    exact .inl ⟨x, q, goes, hm, hx, choices, conditionals, deferred⟩
  | settling d' q goes hm hd' last piles choices conditionals deferred =>
    exact .inr (.inl ⟨hm, last⟩)
  | expanding c q goes hm owesNothing room piles deferred =>
    exact absurd owesNothing (not_le.mpr howed)
  | choosing place q goes hm open_ piles choices conditionals deferred =>
    rw [hchoices] at open_
    exact absurd open_ (Nat.not_lt_zero place)
  | closing q goes hm hnone open_ piles choices conditionals deferred =>
    rw [hd] at hnone
    cases hnone
  | deferring d' hm hnone goes choices conditionals deferred =>
    rw [hd] at hnone
    cases hnone
  | starting q goes hm hsetup counters deferred => exact absurd hsetup hstarted
  | passing q hm players phase id counters armies choices conditionals deferred =>
    exact .inr (.inr ⟨hm, ⟨deferred, q, players, id, counters, armies⟩⟩)

/-- The game after some moves since a player accepted a conditional, while it is not paid for. -/
structure Owing (s : State String Int) (p : Player String Int) (d : Deferred) (done : List Move)
    (t : State String Int) : Prop where
  started : t.phase ≠ .setup
  deferred : t.deferred = some d
  choices : t.choices = []
  conditionals : t.conditionals = s.conditionals
  current : ∃ q, t.current = .ok q ∧ p.Used done q ∧
    q.counters.discard = d.intent.cost.amount - discards done

namespace Owing

theorem mover (h : Owing s p d done t) (hawaits : d.Awaits done) (hp : t.MayMove m q) :
    p.Used done q ∧ q.counters.discard = d.intent.cost.amount - discards done ∧
      0 < q.counters.discard := by
  obtain ⟨u, hu, hused, hcredits⟩ := h.current
  obtain rfl := Option.some.inj (hp.current.symm.trans (State.current_eq_ok.mp hu))
  have howed := hawaits.owed
  exact ⟨hused, hcredits, by omega⟩

theorem play (h : Owing s p d done t) (ht : t.Seated) (hr : t.play rules shuffle m = .ok r)
    (hawaits : d.Awaits (done ++ [m])) : Owing s p d (done ++ [m]) r.state := by
  obtain ⟨q, hq, hdeed⟩ := State.play_deed ht hr
  obtain ⟨hused, hcredits, howed⟩ := h.mover hawaits.of_append hq
  rcases hdeed.of_deferred h.started h.deferred h.choices howed with
    ⟨x, u, goes, hm, hx, choices, conditionals, deferred⟩ | ⟨hm, hlast⟩ | ⟨hm, -⟩
  · have hspent := hused.spend hx hm
    -- both players are counted down from the one who accepted
    have hprice : p.counters.discard = d.intent.cost.amount := by
      have := hused.discards
      omega
    exact ⟨goes.phase ▸ h.started, deferred.trans h.deferred, choices.trans h.choices,
      conditionals.trans h.conditionals, u, State.current_eq_ok.mpr (goes.current ht hq.current),
      hspent, hprice ▸ hspent.discards⟩
  · -- another discard is owed after this one, so the credits have not come down to one
    have hmore := hawaits.owed
    rw [discards_append_of_discard hm] at hmore
    omega
  · exact absurd hm (not_or.mpr (hawaits.goesOn m (by simp)))

theorem refuses (h : Owing s p d done t) (ht : t.Seated) (hawaits : d.Awaits done)
    (hm : m.kind = .expand ∨ m.kind = .resolveChoice ∨ m.kind = .resolveConditional) :
    ∃ why, t.play rules shuffle m = .error why := by
  cases hr : t.play rules shuffle m with
  | error why => exact ⟨why, rfl⟩
  | ok r =>
    exfalso
    obtain ⟨q, hq, hdeed⟩ := State.play_deed ht hr
    obtain ⟨hused, hcredits, howed⟩ := h.mover hawaits hq
    rcases hdeed.of_deferred h.started h.deferred h.choices howed with
      ⟨x, u, goes, hx, -⟩ | ⟨hk, -⟩ | ⟨hk, -⟩
    · rcases hm with hm | hm | hm <;> rw [hm] at hx <;> cases hx
    · rcases hm with hm | hm | hm <;> rw [hm] at hk <;> cases hk
    · rcases hm with hm | hm | hm <;> rw [hm] at hk <;> rcases hk with hk | hk <;> cases hk

theorem settles (h : Owing s p d done t) (hawaits : d.Awaits done)
    (hlast : (discards done : Int) + 1 = d.intent.cost.amount) (hm : m.kind = .discard)
    (hr : t.play rules shuffle m = .ok r) :
    ∃ q c, t.current = .ok q ∧ State.named q.hand m.card = some c ∧
      r.state = { t.withPlayer ((State.discarded q c).grantedAll d.benefit.deltas) with
        conditionals := t.conditionals.tail, deferred := none, history := t.history ++ [m] } := by
  obtain ⟨q, x, hq, hx, rfl⟩ := State.play_eq_ok.mp hr
  obtain ⟨hused, hcredits, howed⟩ := h.mover hawaits hq
  unfold State.perform at hx
  rw [hm] at hx
  have hdue : ∀ c, (State.discarded q c).counters.discard = q.counters.discard - 1 := fun c => rfl
  obtain ⟨c, hc, ⟨hnot, -⟩ | ⟨d', hd', -, hstate⟩⟩ := State.discard_cases hx
  · exfalso
    rcases hnot with hnone | hmore
    · rw [h.deferred] at hnone
      cases hnone
    · rw [hdue] at hmore
      omega
  · obtain rfl := Option.some.inj (h.deferred.symm.trans hd')
    refine ⟨q, c, State.current_eq_ok.mpr hq.current, hc, ?_⟩
    rw [hstate]
    rfl

end Owing

namespace State

def withBenefit (s : State String Int) (b : Benefit) : State String Int :=
  { s with deferred := s.deferred.map fun d => { d with benefit := b } }

theorem withBenefit_of_none (h : s.deferred = none) (b : Benefit) : s.withBenefit b = s := by
  unfold withBenefit
  rw [h, Option.map_none, ← h]

theorem withBenefit_self (h : s.deferred = some d) : s.withBenefit d.benefit = s := by
  unfold withBenefit
  rw [h, Option.map_some, ← h]

@[simp] theorem withBenefit_withBenefit (s : State String Int) (b₁ b₂ : Benefit) :
    (s.withBenefit b₁).withBenefit b₂ = s.withBenefit b₂ := by
  simp [withBenefit, Function.comp_def]

theorem withBenefit_deferred (h : s.deferred = some d) (b : Benefit) :
    (s.withBenefit b).deferred = some { d with benefit := b } := by
  rw [withBenefit, h]
  rfl

theorem settled_of_owed (h : 0 < p.counters.discard) : s.settled p = (s, []) := by
  unfold settled
  cases s.deferred with
  | none => rfl
  | some d => exact if_pos h

/-- What a move does, it does whichever benefit is deferred, but for the discard that brings it. -/
theorem perform_withBenefit (hd : s.deferred = some d) (b : Benefit)
    (h : s.perform rules shuffle p m = .ok r) :
    ∃ r', (s.withBenefit b).perform rules shuffle p m = .ok r' ∧
      ((m.kind = .discard → 1 < p.counters.discard) → r'.state = r.state.withBenefit b) := by
  unfold perform at h ⊢
  cases hk : m.kind <;> rw [hk] at h <;> simp only [] at h ⊢
  case expand =>
    obtain ⟨c, t, hc, rfl⟩ := expand_eq_ok.mp h
    have hc' : (s.withBenefit b).MayExpand rules p m.card c t :=
      ⟨hc.given, hc.found, hc.owesNothing, hc.answered, hc.fits, hc.tier⟩
    exact ⟨_, expand_eq_ok.mpr ⟨c, t, hc', rfl⟩, fun _ => rfl⟩
  case consolidate =>
    obtain ⟨cards, q, hcards, hq, rfl⟩ := consolidate_eq_ok.mp h
    exact ⟨_, consolidate_eq_ok.mpr ⟨cards, q, hcards, hq, rfl⟩, fun _ => rfl⟩
  case endTurn =>
    change ∃ r', (if s.phase = .setup then .ok ((s.withBenefit b).start rules p)
      else (s.withBenefit b).endTurn p) = .ok r' ∧ _
    split at h
    · obtain rfl := Except.ok.inj h
      exact ⟨_, if_pos ‹_›, fun _ => rfl⟩
    · obtain ⟨q, hq, rfl⟩ := endTurn_eq_ok.mp h
      rw [if_neg ‹_›]
      exact ⟨_, endTurn_eq_ok.mpr ⟨q, hq, rfl⟩, fun _ => rfl⟩
  case draw =>
    rcases draw_eq_ok.mp h with ⟨hdeck, rfl⟩ | ⟨hdeck, hdiscard, cards, hcards, rfl⟩
    · exact ⟨_, draw_eq_ok.mpr (.inl ⟨hdeck, rfl⟩), fun _ => rfl⟩
    · exact ⟨_, draw_eq_ok.mpr (.inr ⟨hdeck, hdiscard, cards, hcards, rfl⟩), fun _ => rfl⟩
  case take =>
    obtain ⟨c, hc, rfl⟩ := take_eq_ok.mp h
    exact ⟨_, take_eq_ok.mpr ⟨c, hc, rfl⟩, fun _ => rfl⟩
  case discard =>
    obtain ⟨c, hc, rfl⟩ := discard_eq_ok.mp h
    refine ⟨_, discard_eq_ok.mpr ⟨c, hc, rfl⟩, fun hmore => ?_⟩
    have howed : 0 < (discarded p c).counters.discard := by
      have hone : 1 < p.counters.discard := hmore trivial
      change 0 < p.counters.discard - 1
      omega
    simp only [settled_of_owed howed]
    rfl
  case exile =>
    obtain ⟨c, hc, rfl⟩ := exile_eq_ok.mp h
    exact ⟨_, exile_eq_ok.mpr ⟨c, hc, rfl⟩, fun _ => rfl⟩
  case bury =>
    obtain ⟨c, hc, rfl⟩ := bury_eq_ok.mp h
    exact ⟨_, bury_eq_ok.mpr ⟨c, hc, rfl⟩, fun _ => rfl⟩
  case revive =>
    obtain ⟨c, hc, rfl⟩ := revive_eq_ok.mp h
    exact ⟨_, revive_eq_ok.mpr ⟨c, hc, rfl⟩, fun _ => rfl⟩
  case fight =>
    obtain ⟨x, hx, hattack, hid, rfl⟩ := fight_eq_ok.mp h
    exact ⟨_, fight_eq_ok.mpr ⟨x, hx, hattack, hid, rfl⟩, fun _ => rfl⟩
  case buildOutpost =>
    obtain ⟨x, hx, hbuild, hid, rfl⟩ := buildOutpost_eq_ok.mp h
    exact ⟨_, buildOutpost_eq_ok.mpr ⟨x, hx, hbuild, hid, rfl⟩, fun _ => rfl⟩
  case placeArmy =>
    obtain ⟨x, harmies, hx, hplace, hid, rfl⟩ := placeArmy_eq_ok.mp h
    exact ⟨_, placeArmy_eq_ok.mpr ⟨x, harmies, hx, hplace, hid, rfl⟩, fun _ => rfl⟩
  case resolveChoice =>
    obtain ⟨c, name, b', hplace, hc, hname, hb', rfl⟩ := answerChoice_eq_ok.mp h
    exact ⟨_, answerChoice_eq_ok.mpr ⟨c, name, b', hplace, hc, hname, hb', rfl⟩, fun _ => rfl⟩
  case resolveConditional =>
    -- nothing is answered while a conditional is deferred
    obtain ⟨-, h⟩ := need_bind_eq_ok.mp h
    obtain ⟨c, -, -, hnone, -⟩ := answerConditional_eq_ok.mp h
    rw [hd] at hnone
    cases hnone

theorem play_withBenefit (hd : s.deferred = some d) (b : Benefit)
    (h : s.play rules shuffle m = .ok r) :
    ∃ r', (s.withBenefit b).play rules shuffle m = .ok r' ∧
      ((m.kind = .discard → ∀ p, s.current = .ok p → 1 < p.counters.discard) →
        r'.state = r.state.withBenefit b) := by
  obtain ⟨p, x, hp, hx, rfl⟩ := play_eq_ok.mp h
  obtain ⟨x', hx', hstate⟩ := perform_withBenefit hd b hx
  have hp' : (s.withBenefit b).MayMove m p :=
    ⟨hp.goesOn, hp.started, hp.seated, hp.current, hp.named, hp.credit⟩
  refine ⟨_, play_eq_ok.mpr ⟨p, x', hp', hx', rfl⟩, fun hmore => ?_⟩
  have hsame := hstate fun hm => hmore hm p (current_eq_ok.mpr hp.current)
  simp only [hsame]
  rfl

theorem after_withBenefit (hd : s.deferred = some d) (b : Benefit) (x : Step)
    (hx : ∀ m, s.makes rules shuffle x = [m] → m.kind = .discard →
      ∀ p, s.current = .ok p → 1 < p.counters.discard) :
    (s.withBenefit b).after rules shuffle x = (s.after rules shuffle x).withBenefit b := by
  cases x with
  | move m =>
    change (s.withBenefit b).next rules shuffle m = (s.next rules shuffle m).withBenefit b
    cases hr : s.play rules shuffle m with
    | ok r =>
      obtain ⟨r', hr', hstate⟩ := play_withBenefit hd b hr
      rw [next_of_play hr, next_of_play hr']
      exact hstate (hx m (makes_of_play hr))
    | error why =>
      -- a move that were accepted with one benefit would be with the other
      cases hr' : (s.withBenefit b).play rules shuffle m with
      | error why' => rw [next, hr', next, hr]
      | ok r' =>
        obtain ⟨r, hr₂, -⟩ := play_withBenefit (withBenefit_deferred hd b) d.benefit hr'
        rw [withBenefit_withBenefit, withBenefit_self hd, hr] at hr₂
        cases hr₂
  | close =>
    have hover : (s.withBenefit b).isOver rules = s.isOver rules := rfl
    simp only [after, endIfOver, hover]
    cases s.isOver rules with
    | error f => rfl
    | ok o =>
      simp only [ok_bind]
      by_cases hp : s.phase = .playing ∧ o = true
      · rw [if_pos hp, if_pos (show (s.withBenefit b).phase = .playing ∧ o = true from hp)]
        rfl
      · rw [if_neg hp, if_neg (show ¬((s.withBenefit b).phase = .playing ∧ o = true) from hp)]
        rfl
  | stamp name time => rfl

end State

theorem Reachable.nothing_deferred (hs : Reachable rules shuffle s) (h : s.deferred = none)
    (steps : List Step) (hmade : ∀ m ∈ s.made rules shuffle steps, m.kind ≠ .resolveConditional) :
    (s.run rules shuffle steps).deferred = none := by
  have key : (∀ m ∈ s.made rules shuffle steps, m.kind ≠ .resolveConditional) →
      (s.run rules shuffle steps).deferred = none := by
    apply hs.made_induction (P := fun done t =>
      (∀ m ∈ done, m.kind ≠ .resolveConditional) → t.deferred = none)
    · exact fun _ => h
    · intro done t m r ht ih hr hdone
      rw [List.forall_mem_append, List.forall_mem_singleton] at hdone
      have hnone := ih hdone.1
      obtain ⟨p, hp, hdeed⟩ := State.play_deed ht.seated hr
      cases hdeed with
      | deferring d hm hd goes choices conditionals deferred => exact absurd hm hdone.2
      | spending x q goes hm hq choices conditionals deferred owing => exact deferred.trans hnone
      | choosing place q goes hm open_ piles choices conditionals deferred =>
        exact deferred.trans hnone
      | starting q goes hm hsetup counters deferred => exact deferred.trans hnone
      | _ => assumption
    · exact fun ih => ih
    · exact fun _ ih => ih
  exact key hmade

namespace Owing

theorem run (hs : Reachable rules shuffle s) (h : Owing s p d [] s) (steps : List Step)
    (hawaits : d.Awaits (s.made rules shuffle steps)) :
    Owing s p d (s.made rules shuffle steps) (s.run rules shuffle steps) := by
  have key : d.Awaits (s.made rules shuffle steps) →
      Owing s p d (s.made rules shuffle steps) (s.run rules shuffle steps) := by
    apply hs.made_induction (P := fun done t => d.Awaits done → Owing s p d done t)
    · exact fun _ => h
    · intro done t m r ht ih hr hdone
      exact (ih hdone.of_append).play ht.seated hr hdone
    · intro done t ih hdone
      obtain ⟨-, deferred, choices, conditionals, current⟩ := ih hdone
      exact ⟨by simp, deferred, choices, conditionals, current⟩
    · intro done t notes ih hdone
      obtain ⟨started, deferred, choices, conditionals, current⟩ := ih hdone
      exact ⟨started, deferred, choices, conditionals, current⟩
  exact key hawaits

theorem run_withBenefit (hs : Reachable rules shuffle s) (h : Owing s p d [] s) (b : Benefit)
    (steps : List Step) (hawaits : d.Awaits (s.made rules shuffle steps)) :
    (s.withBenefit b).run rules shuffle steps = (s.run rules shuffle steps).withBenefit b := by
  induction steps using List.reverseRecOn with
  | nil => rfl
  | append_singleton xs x ih =>
    rw [State.made_append, State.made_singleton] at hawaits
    have howing := h.run hs xs hawaits.of_append
    rw [State.run_append, State.run_append, ih hawaits.of_append]
    apply State.after_withBenefit howing.deferred
    intro m hmakes hm q hq
    obtain ⟨u, hu, -, hcredits⟩ := howing.current
    obtain rfl := Except.ok.inj (hu.symm.trans hq)
    have hmore := hawaits.owed
    rw [hmakes, discards_append_of_discard hm] at hmore
    omega

end Owing

/-- How the game goes on after a player has accepted a conditional that costs cards. -/
structure PaysOnce (rules : Rulebook String) (shuffle : Shuffler String Int) (s : State String Int)
    (p : Player String Int) (d : Deferred) : Prop where
  begins : d.Awaits []
  front : s.conditionals.head? = some d.intent
  /-- so far the benefit has brought nothing, and as many discards are owed as are not made yet -/
  owing : ∀ steps, d.Awaits (s.made rules shuffle steps) →
    Owing s p d (s.made rules shuffle steps) (s.run rules shuffle steps)
  unread : ∀ steps b, d.Awaits (s.made rules shuffle steps) →
    (s.withBenefit b).run rules shuffle steps = (s.run rules shuffle steps).withBenefit b
  refuses : ∀ steps m, d.Awaits (s.made rules shuffle steps) →
    m.kind = .expand ∨ m.kind = .resolveChoice ∨ m.kind = .resolveConditional →
      ∃ why, (s.run rules shuffle steps).play rules shuffle m = .error why
  /-- the last discard grants the benefit and closes the front conditional; nothing is left to grant
  until another one is accepted -/
  settles : ∀ steps m r, d.Awaits (s.made rules shuffle steps) →
    (discards (s.made rules shuffle steps) : Int) + 1 = d.intent.cost.amount → m.kind = .discard →
    (s.run rules shuffle steps).play rules shuffle m = .ok r →
      let t := s.run rules shuffle steps
      (∃ q c, t.current = .ok q ∧ State.named q.hand m.card = some c ∧
        r.state = { t.withPlayer ((State.discarded q c).grantedAll d.benefit.deltas) with
          conditionals := s.conditionals.tail, deferred := none, history := t.history ++ [m] }) ∧
      ∀ more, (∀ m ∈ r.state.made rules shuffle more, m.kind ≠ .resolveConditional) →
        (r.state.run rules shuffle more).deferred = none
  /-- a turn that ends sooner leaves the player what there was, and the benefit makes no difference
  to anything that follows -/
  lapses : ∀ steps m r, d.Awaits (s.made rules shuffle steps) →
    m.kind = .endTurn ∨ m.kind = .consolidate →
    (s.run rules shuffle steps).play rules shuffle m = .ok r →
      let t := s.run rules shuffle steps
      (∃ q, t.current = .ok q ∧ t.Lapsed q r.state) ∧
      ∀ b more, (s.withBenefit b).run rules shuffle (steps ++ .move m :: more) =
        s.run rules shuffle (steps ++ .move m :: more)

theorem Owing.lapses (hs : Reachable rules shuffle s) (h : Owing s p d [] s) {steps : List Step}
    (hawaits : d.Awaits (s.made rules shuffle steps))
    (hm : m.kind = .endTurn ∨ m.kind = .consolidate)
    (hr : (s.run rules shuffle steps).play rules shuffle m = .ok r) :
    let t := s.run rules shuffle steps
    (∃ q, t.current = .ok q ∧ t.Lapsed q r.state) ∧
    ∀ b more, (s.withBenefit b).run rules shuffle (steps ++ .move m :: more) =
      s.run rules shuffle (steps ++ .move m :: more) := by
  intro t
  have howing : Owing s p d _ t := h.run hs steps hawaits
  obtain ⟨q, hq, hdeed⟩ := State.play_deed (hs.run steps).seated hr
  obtain ⟨hused, hcredits, howed⟩ := howing.mover hawaits hq
  have hnot : m.kind ≠ .discard := by
    rcases hm with hk | hk <;> simp [hk]
  rcases hdeed.of_deferred howing.started howing.deferred howing.choices howed with
    ⟨x, u, goes, hx, -⟩ | ⟨hk, -⟩ | ⟨hk, hlapsed⟩
  · rcases hm with hk | hk <;> rw [hk] at hx <;> cases hx
  · exact absurd hk hnot
  refine ⟨⟨q, State.current_eq_ok.mpr hq.current, hlapsed⟩, fun b more => ?_⟩
  -- the turn ends in the same state, for nothing is deferred then
  obtain ⟨r', hr', hstate⟩ := State.play_withBenefit howing.deferred b hr
  have hsame : r'.state = r.state := by
    rw [hstate fun hk => absurd hk hnot, State.withBenefit_of_none hlapsed.deferred]
  rw [State.run_append, State.run_append, h.run_withBenefit hs b steps hawaits]
  change State.run rules shuffle (State.next rules shuffle _ m) more =
    State.run rules shuffle (State.next rules shuffle _ m) more
  rw [State.next_of_play hr', State.next_of_play hr, hsame]

theorem Owing.paysOnce (hs : Reachable rules shuffle s) (h : Owing s p d [] s)
    (begins : d.Awaits []) (front : s.conditionals.head? = some d.intent) :
    PaysOnce rules shuffle s p d where
  begins := begins
  front := front
  owing steps := h.run hs steps
  unread steps b := h.run_withBenefit hs b steps
  refuses steps m hawaits := (h.run hs steps hawaits).refuses (hs.run steps).seated hawaits
  settles steps m r hawaits hlast hm hr := by
    have howing := h.run hs steps hawaits
    obtain ⟨q, c, hq, hc, hstate⟩ := howing.settles hawaits hlast hm hr
    rw [howing.conditionals] at hstate
    refine ⟨⟨q, c, hq, hc, hstate⟩, fun more => ?_⟩
    apply ((hs.run steps).play hr).nothing_deferred
    rw [hstate]
  lapses steps m r hawaits hm hr := h.lapses hs hawaits hm hr

/-- A conditional that costs cards pays out once, with the last card that is discarded for it. -/
theorem pays_once {c : Conditional} (h : Reachable rules shuffle s)
    (hm : m.kind = .resolveConditional) (haccept : m.accept.truthy = true)
    (hfront : s.conditionals.head? = some c) (hkind : c.cost.kind = .discard)
    (hcost : 1 ≤ c.cost.amount) (hr : s.play rules shuffle m = .ok r) :
    ∃ p b, s.current = .ok p ∧ c.Grants m.choice b ∧
      let q : Player String Int := { p with counters := p.counters.set .discard c.cost.amount }
      r.state =
        { s.withPlayer q with deferred := some ⟨c, b⟩, history := s.history ++ [m] } ∧
      PaysOnce rules shuffle r.state q ⟨c, b⟩ := by
  have hreach := h.play hr
  obtain ⟨p, x, hp, hx, rfl⟩ := State.play_eq_ok.mp hr
  unfold State.perform at hx
  rw [hm] at hx
  obtain ⟨-, hx⟩ := need_bind_eq_ok.mp hx
  obtain ⟨c', hchoices, hc', -, ⟨hno, -⟩ | ⟨-, b, hb, -, rfl⟩⟩ :=
    State.answerConditional_eq_ok.mp hx
  · rw [haccept] at hno
    cases hno
  obtain rfl := Option.some.inj (hfront.symm.trans hc')
  let q : Player String Int := { p with counters := p.counters.set .discard c.cost.amount }
  have hstate : (s.accepted p c b).state = { s.withPlayer q with deferred := some ⟨c, b⟩ } := by
    rw [State.accepted, hkind]
  simp only [hstate] at hreach ⊢
  have hcurrent : atSeat? (s.withPlayer q).players s.seat = some q :=
    State.Goes.current h.seated hp.current ⟨rfl, rfl, rfl, rfl⟩
  let t : State String Int :=
    { s.withPlayer q with deferred := some ⟨c, b⟩, history := s.history ++ [m] }
  have howing : Owing t q ⟨c, b⟩ [] t :=
    { started := hp.started.resolve_right (by simp [hm])
      deferred := rfl
      choices := hchoices
      conditionals := rfl
      current := ⟨q, State.current_eq_ok.mpr hcurrent, q.used_nil, (sub_zero _).symm⟩ }
  exact ⟨p, b, State.current_eq_ok.mpr hp.current, hb, rfl,
    howing.paysOnce hreach ⟨by simp, hcost⟩ hfront⟩

/-- A card is played, its choices are answered and its conditional, which costs a card, is
accepted. -/
theorem pays_once_sample :
    ∃ s₀ : State String Int,
      newGame sampleRulebook unshuffled "game" 7 ["Ada", "Ben"] = .ok s₀ ∧
        let s := s₀.run sampleRulebook unshuffled (sampleSteps.take 4)
        ∃ c r, s.conditionals.head? = some c ∧ c.cost.amount = 1 ∧
          s.play sampleRulebook unshuffled (.answer "player-1" true (.text "+1 vp")) = .ok r ∧
          ∃ q b, PaysOnce sampleRulebook unshuffled r.state q ⟨c, b⟩ := by
  obtain ⟨s₀, h⟩ : ∃ s₀ : State String Int,
      newGame sampleRulebook unshuffled "game" 7 ["Ada", "Ben"] = .ok s₀ := ⟨_, rfl⟩
  have hcost : (s₀.run sampleRulebook unshuffled (sampleSteps.take 4)).conditionals.head?.map
      (fun c => (c.cost.kind, c.cost.amount)) = some (.discard, 1) := by
    obtain rfl := Except.ok.inj h
    decide +kernel
  have haccepted : ((s₀.run sampleRulebook unshuffled (sampleSteps.take 4)).play sampleRulebook
      unshuffled (.answer "player-1" true (.text "+1 vp"))).isOk = true := by
    obtain rfl := Except.ok.inj h
    decide +kernel
  obtain ⟨c, hfront, hc⟩ := Option.map_eq_some_iff.mp hcost
  obtain ⟨hkind, hone⟩ := Prod.mk.inj hc
  cases hr : (s₀.run sampleRulebook unshuffled (sampleSteps.take 4)).play sampleRulebook
      unshuffled (.answer "player-1" true (.text "+1 vp")) with
  | error why =>
    rw [hr] at haccepted
    cases haccepted
  | ok r =>
    obtain ⟨p, b, -, -, -, hpays⟩ := pays_once (Reachable.run (.deal h) (sampleSteps.take 4)) rfl
      rfl hfront hkind hone.ge hr
    exact ⟨s₀, h, c, r, hfront, hone, hr, _, b, hpays⟩

end GuildCards
