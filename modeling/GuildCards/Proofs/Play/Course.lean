import Mathlib
import GuildCards.Proofs.Play.Deeds
import GuildCards.Proofs.Play.Ledger

/-!
The course of an accepted move, beside the cards and the questions: the player who makes it becomes
another, and nobody else changes. What the player holds grows by what the ledger enters as granted
and shrinks by what it enters as paid and by what the move uses up, all of which is there; a pile
grows by one card that it admits; and one spot of the map changes hands at most.
-/
namespace GuildCards
open Document Effect

variable {rules : Rulebook String} {shuffle : Shuffler String Int} {s t : State String Int}
  {p q u : Player String Int} {r : Played String Int} {m : Move} {c : Counter} {x : Resource}

namespace MoveKind

theorem uses?_counter {k : MoveKind} : k.uses? = some (.counter c) ↔ k.credit? = some c := by
  cases k <;> simp [uses?, credit?]

def use (k : MoveKind) (x : Resource) : Int := if k.uses? = some x then 1 else 0

theorem use_eq_zero {k : MoveKind} (h : k.uses? = none) (x : Resource) : k.use x = 0 := by
  simp [use, h]

end MoveKind

structure State.Fixed (s t : State String Int) : Prop where
  id : t.id = s.id
  rulebook : t.rulebook = s.rulebook
  marketSize : t.marketSize = s.marketSize
  seed : t.seed = s.seed
  notes : t.notes = s.notes

/-- What a move does to what its player holds, and to seat and turn. -/
inductive Holding (s : State String Int) (p : Player String Int) (m : Move) (t : State String Int)
    (q : Player String Int) : Prop where
  | trading (seat : t.seat = s.seat) (turn : t.turn = s.turn) (hm : m.kind ≠ .consolidate)
    (opening : m.kind = .endTurn → s.phase = .setup)
    (funded : ∀ x, 0 ≤ p.holds x → amountOf x (s.pays m) + m.kind.use x ≤ p.holds x)
    (holds : ∀ x, q.holds x =
      p.holds x + amountOf x (s.grants m t) - amountOf x (s.pays m) - m.kind.use x)
  | owing (c : Conditional) (seat : t.seat = s.seat) (turn : t.turn = s.turn)
    (hm : m.kind = .resolveConditional) (hc : c ∈ s.conditionals) (grants : s.grants m t = [])
    (pays : s.pays m = []) (counters : q.counters = p.counters.set .discard c.cost.amount)
    (armies : q.armies = p.armies)
  | passing (seat : t.seat = (s.seat + 1).fmod s.players.length) (turn : t.turn = s.turn + 1)
    (hm : m.kind = .endTurn ∨ m.kind = .consolidate) (grants : s.grants m t = [])
    (pays : s.pays m = []) (counters : q.counters = p.counters.endTurn)
    (armies : q.armies = p.armies)

inductive Stacking (p : Player String Int) (m : Move) (q : Player String Int) : Prop where
  | keeping (hm : m.kind ≠ .consolidate) (piles : q.piles = p.piles)
  | laying (c : Card String) (hm : m.kind = .expand)
    (admits : (p.piles.get c.guild).admits c.color = true)
    (piles : q.piles = p.piles.set c.guild (p.piles.get c.guild ++ [c]))
  | cutting (hm : m.kind = .consolidate) (piles : q.piles = p.piles.map Pile.base)

/-- What a move does to the map, and to the outposts of its player. -/
inductive Turf (s : State String Int) (p : Player String Int) (m : Move) (t : State String Int)
    (q : Player String Int) : Prop where
  | quiet (hplace : m.kind ≠ .placeArmy) (hfight : m.kind ≠ .fight) (spots : t.spots = s.spots)
    (outposts : q.outposts = p.outposts)
  | placing (x : Spot String Int) (hm : m.kind = .placeArmy) (hx : s.spot? m.spot = some x)
    (may : s.canPlaceOn (.text p.id) x = true)
    (spots : t.spots =
      (s.withSpot { x with holder := some p.id, armies := x.armies + 1 }).spots)
    (outposts : q.outposts = p.outposts)
  | fighting (x : Spot String Int) (hm : m.kind = .fight) (hx : s.spot? m.spot = some x)
    (may : s.canAttack (.text p.id) x = true) (spots : t.spots = (s.withSpot x.attacked).spots)
    (outposts : q.outposts = p.outposts)
  | building (x : Spot String Int) (hm : m.kind = .buildOutpost) (hx : s.spot? m.spot = some x)
    (may : s.canBuildOn (.text p.id) x = true) (spots : t.spots = s.spots)
    (outposts : q.outposts = p.outposts ++ [x.id])

/-- The course of a move that makes its player another. -/
structure Course (s : State String Int) (p : Player String Int) (m : Move) (t : State String Int)
    (q : Player String Int) : Prop where
  players : t.players = (s.withPlayer q).players
  id : q.id = p.id
  fixed : s.Fixed t
  holding : Holding s p m t q
  stacking : Stacking p m q
  turf : Turf s p m t q

namespace Player

@[simp] theorem grantedAll_outposts (p : Player String Int) (ds : List Delta) :
    (p.grantedAll ds).outposts = p.outposts := by
  rw [grantedAll_eq]
  rfl

@[simp] theorem paid_outposts (p : Player String Int) (c : Cost) :
    (p.paid c).outposts = p.outposts := by
  rw [paid_eq]
  rfl

theorem holds_putDown (p : Player String Int) (c : Card String) (x : Resource) :
    (p.putDown c).holds x = p.holds x := by
  cases x <;> rfl

theorem payment_le {c : Cost} (h : p.affords c = true) (hx : 0 ≤ p.holds x) :
    amountOf x c.payment ≤ p.holds x := by
  obtain ⟨kind, text, n, resource⟩ := c
  cases kind with
  | discard => exact hx
  | pay =>
    cases resource with
    | none => exact hx
    | some y =>
      have hn : n ≤ p.holds y := of_decide_eq_true h
      simp only [amountOf, Cost.payment, List.map_cons, List.map_nil, List.sum_cons, List.sum_nil]
      split_ifs with hy
      · rw [← hy]
        omega
      · omega

end Player

namespace State

theorem grants_eq_nil
    (h : m.kind ∉ [.expand, .discard, .resolveChoice, .resolveConditional]) :
    s.grants m t = [] := by
  unfold grants answered?
  cases hk : m.kind <;> rw [hk] at h <;> first | rfl | exact absurd (by decide) h

theorem pays_eq_nil (h : m.kind ≠ .resolveConditional) : s.pays m = [] := by
  unfold pays
  split
  · exact absurd ‹_› h
  · rfl

theorem grants_of_closed {d : Deferred} (hm : m.kind = .discard) (hs : s.deferred = some d)
    (ht : t.deferred = none) : s.grants m t = d.benefit.deltas := by
  simp [grants, hm, hs, ht]

theorem grants_of_kept (hm : m.kind = .discard) (h : t.deferred = s.deferred) :
    s.grants m t = [] := by
  simp only [grants, hm, h]
  split_ifs with hnone
  · rw [hnone]
    rfl
  · rfl

theorem answered?_of_choice {x : Choice} {name : String} (hm : m.kind = .resolveChoice)
    (hx : s.choices[(m.intent.getD 0).toNat]? = some x) (hname : choiceText m.choice = .ok name) :
    s.answered? m = x.find? name := by
  have htext : m.choice.text?.getD "" = name := by
    rcases choiceText_eq_ok.mp hname with h | ⟨h, -, rfl⟩ <;> rw [h] <;> rfl
  simp [answered?, hm, hx, htext]

theorem answered?_of_conditional {x : Conditional} {b : Benefit}
    (hm : m.kind = .resolveConditional) (hx : s.paidFor? m = some x) (hb : x.Grants m.choice b) :
    s.answered? m = some b := by
  simp only [answered?, hm, hx, Option.bind_some]
  obtain ⟨hn, rfl⟩ | ⟨hn, name, hchoice, -, hfind⟩ := hb
  · rw [if_pos hn]
  · rw [if_neg hn, hchoice]
    exact hfind

theorem holding_of_uses (hx : m.kind.uses? = some x) (hu : p.Uses x u)
    (holds : ∀ y, q.holds y = u.holds y + amountOf y (s.grants m t)) (seat : t.seat = s.seat)
    (turn : t.turn = s.turn) : Holding s p m t q := by
  have huse (y : Resource) : m.kind.use y = if y = x then 1 else 0 := by
    simp [MoveKind.use, hx, eq_comm]
  have hpays : s.pays m = [] := pays_eq_nil (by rintro hk; rw [hk] at hx; cases hx)
  refine .trading seat turn ?_ ?_ (fun y hy => ?_) fun y => ?_
  · rintro hk
    rw [hk] at hx
    cases hx
  · rintro hk
    rw [hk] at hx
    cases hx
  · have hhad := hu.had
    rw [hpays, huse]
    change 0 + _ ≤ _
    split_ifs with h
    · rw [h]
      omega
    · omega
  · rw [holds, hu.holds, hpays, huse]
    change _ = p.holds y + _ - 0 - _
    ring

theorem holding_of_free (hm : m.kind.uses? = none) (hpays : s.pays m = [])
    (holds : ∀ y, q.holds y = p.holds y + amountOf y (s.grants m t)) (seat : t.seat = s.seat)
    (turn : t.turn = s.turn) (hconsolidate : m.kind ≠ .consolidate)
    (opening : m.kind = .endTurn → s.phase = .setup) : Holding s p m t q := by
  refine .trading seat turn hconsolidate opening (fun y hy => ?_) fun y => ?_
  · rw [hpays, MoveKind.use_eq_zero hm]
    exact hy
  · rw [holds, hpays, MoveKind.use_eq_zero hm]
    change _ = _ - 0 - 0
    ring

theorem holding_of_spent (hp : s.MayMove m p) (hm : m.kind.credit? = some c)
    (hne : m.kind ≠ .discard) (id : q.id = p.id) (piles : q.piles = p.piles)
    (counters : q.counters = (p.spent c).counters) (armies : q.armies = p.armies)
    (seat : t.seat = s.seat) (turn : t.turn = s.turn) : Holding s p m t q := by
  have hgrants : s.grants m t = [] := by
    apply grants_eq_nil
    cases hk : m.kind <;> simp_all [MoveKind.credit?]
  have huses := Player.uses_spent (hp.credit c hm) id piles counters armies
  refine holding_of_uses (MoveKind.uses?_counter.mpr hm) huses (fun y => ?_) seat turn
  rw [hgrants]
  exact (add_zero _).symm

theorem course_of_spent (hp : s.MayMove m p) (hm : m.kind.credit? = some c)
    (hdiscard : m.kind ≠ .discard) (hfight : m.kind ≠ .fight)
    (players : t.players = (s.withPlayer q).players) (id : q.id = p.id) (fixed : s.Fixed t)
    (seat : t.seat = s.seat) (turn : t.turn = s.turn) (spots : t.spots = s.spots)
    (piles : q.piles = p.piles) (counters : q.counters = (p.spent c).counters)
    (armies : q.armies = p.armies) (outposts : q.outposts = p.outposts) : Course s p m t q := by
  have hkind : m.kind ≠ .consolidate ∧ m.kind ≠ .placeArmy := by
    constructor <;>
    · intro hk
      rw [hk] at hm
      cases hm
  exact ⟨players, id, fixed, holding_of_spent hp hm hdiscard id piles counters armies seat turn,
    .keeping hkind.1 piles, .quiet hkind.2 hfight spots outposts⟩

theorem expand_course (hs : s.Seated) (hp : s.MayMove m p) (hk : m.kind = .expand)
    (h : s.expand rules p m.card = .ok r) : ∃ q, Course s p m r.state q := by
  obtain ⟨c, t, hc, rfl⟩ := expand_eq_ok.mp h
  have hgrants : s.grants m (s.expanded p c t).state = grantsOf (c.clausesAt t) := by
    simp only [grants, hk, expansion?, hp.current, hc.found, hc.tier, Option.bind_eq_bind,
      Option.bind_some, Option.map_some, Option.getD_some]
  refine ⟨_, rfl, Player.grantedAll_id .., ⟨rfl, rfl, rfl, rfl, rfl⟩, ?_, ?_, ?_⟩
  · refine holding_of_free (by rw [hk]; rfl) (pays_eq_nil (by simp [hk])) (fun y => ?_) rfl rfl
      (by simp [hk]) (by simp [hk])
    rw [Player.holds_grantedAll, Player.holds_putDown, hgrants]
    rfl
  · exact .laying c hk (admits_of_canPlayCard hs (hs.mem hp.current) hc.found hc.fits)
      (Player.grantedAll_piles ..)
  · exact .quiet (by simp [hk]) (by simp [hk]) rfl (Player.grantedAll_outposts ..)

theorem consolidate_course (hk : m.kind = .consolidate)
    (h : s.consolidate rules shuffle p = .ok r) : ∃ q, Course s p m r.state q := by
  obtain ⟨cards, q, -, -, rfl⟩ := consolidate_eq_ok.mp h
  refine ⟨_, rfl, rfl, ⟨rfl, rfl, rfl, rfl, rfl⟩, ?_, .cutting hk rfl,
    .quiet (by simp [hk]) (by simp [hk]) rfl rfl⟩
  refine .passing ?_ rfl (.inr hk) (grants_eq_nil (by simp [hk])) (pays_eq_nil (by simp [hk]))
    rfl rfl
  simp [turnPassed, dropIntents, withPlayer]

theorem start_course (hk : m.kind = .endTurn) (hsetup : s.phase = .setup) :
    ∃ q, Course s p m (s.start rules p).state q := by
  refine ⟨_, rfl, rfl, ⟨rfl, rfl, rfl, rfl, rfl⟩, ?_, .keeping (by simp [hk]) rfl,
    .quiet (by simp [hk]) (by simp [hk]) rfl rfl⟩
  refine holding_of_free (by rw [hk]; rfl) (pays_eq_nil (by simp [hk])) (fun y => ?_) rfl rfl
    (by simp [hk]) fun _ => hsetup
  rw [grants_eq_nil (by simp [hk])]
  cases y <;> exact (add_zero _).symm

theorem endTurn_course (hk : m.kind = .endTurn) (h : s.endTurn p = .ok r) :
    ∃ q, Course s p m r.state q := by
  obtain ⟨q, -, rfl⟩ := endTurn_eq_ok.mp h
  refine ⟨_, rfl, rfl, ⟨rfl, rfl, rfl, rfl, rfl⟩, ?_, .keeping (by simp [hk]) rfl,
    .quiet (by simp [hk]) (by simp [hk]) rfl rfl⟩
  refine .passing ?_ rfl (.inl hk) (grants_eq_nil (by simp [hk])) (pays_eq_nil (by simp [hk]))
    rfl rfl
  simp [turnPassed, dropIntents, withPlayer]

theorem draw_course (hp : s.MayMove m p) (hk : m.kind = .draw) (h : s.draw shuffle p = .ok r) :
    ∃ q, Course s p m r.state q := by
  have hcredit : m.kind.credit? = some .draw := by rw [hk]; rfl
  rcases draw_eq_ok.mp h with ⟨-, rfl⟩ | ⟨-, -, cards, -, rfl⟩ <;>
    exact ⟨_, course_of_spent hp hcredit (by simp [hk]) (by simp [hk]) rfl rfl
      ⟨rfl, rfl, rfl, rfl, rfl⟩ rfl rfl rfl rfl rfl rfl rfl⟩

theorem take_course (hp : s.MayMove m p) (hk : m.kind = .take) (h : s.take p m.card = .ok r) :
    ∃ q, Course s p m r.state q := by
  have hcredit : m.kind.credit? = some .take := by rw [hk]; rfl
  obtain ⟨c, -, rfl⟩ := take_eq_ok.mp h
  exact ⟨_, course_of_spent hp hcredit (by simp [hk]) (by simp [hk]) rfl rfl
    ⟨rfl, rfl, rfl, rfl, rfl⟩ rfl rfl rfl rfl rfl rfl rfl⟩

theorem exile_course (hp : s.MayMove m p) (hk : m.kind = .exile) (h : s.exile p m.card = .ok r) :
    ∃ q, Course s p m r.state q := by
  have hcredit : m.kind.credit? = some .exile := by rw [hk]; rfl
  obtain ⟨c, -, rfl⟩ := exile_eq_ok.mp h
  exact ⟨_, course_of_spent hp hcredit (by simp [hk]) (by simp [hk]) rfl rfl
    ⟨rfl, rfl, rfl, rfl, rfl⟩ rfl rfl rfl rfl rfl rfl rfl⟩

theorem bury_course (hp : s.MayMove m p) (hk : m.kind = .bury) (h : s.bury p m.card = .ok r) :
    ∃ q, Course s p m r.state q := by
  have hcredit : m.kind.credit? = some .bury := by rw [hk]; rfl
  obtain ⟨c, -, rfl⟩ := bury_eq_ok.mp h
  exact ⟨_, course_of_spent hp hcredit (by simp [hk]) (by simp [hk]) rfl rfl
    ⟨rfl, rfl, rfl, rfl, rfl⟩ rfl rfl rfl rfl rfl rfl rfl⟩

theorem revive_course (hp : s.MayMove m p) (hk : m.kind = .revive) (h : s.revive p m.card = .ok r) :
    ∃ q, Course s p m r.state q := by
  have hcredit : m.kind.credit? = some .revive := by rw [hk]; rfl
  obtain ⟨c, -, rfl⟩ := revive_eq_ok.mp h
  exact ⟨_, course_of_spent hp hcredit (by simp [hk]) (by simp [hk]) rfl rfl
    ⟨rfl, rfl, rfl, rfl, rfl⟩ rfl rfl rfl rfl rfl rfl rfl⟩

theorem discard_course (hp : s.MayMove m p) (hk : m.kind = .discard)
    (h : s.discard p m.card = .ok r) : ∃ q, Course s p m r.state q := by
  have hcredit : m.kind.credit? = some .discard := by rw [hk]; rfl
  have huses (c : Card String) : p.Uses (.counter .discard) (discarded p c) :=
    Player.uses_spent (hp.credit _ hcredit) rfl rfl rfl rfl
  obtain ⟨c, -, ⟨-, hr⟩ | ⟨d, hd, -, hr⟩⟩ := discard_cases h
  · rw [hr]
    refine ⟨_, rfl, rfl, ⟨rfl, rfl, rfl, rfl, rfl⟩, ?_, .keeping (by simp [hk]) rfl,
      .quiet (by simp [hk]) (by simp [hk]) rfl rfl⟩
    refine holding_of_uses (MoveKind.uses?_counter.mpr hcredit) (huses c) (fun y => ?_) rfl rfl
    have hgrants : s.grants m (s.withPlayer (discarded p c)) = [] := grants_of_kept hk rfl
    rw [hgrants]
    exact (add_zero _).symm
  · rw [hr]
    refine ⟨_, rfl, Player.grantedAll_id .., ⟨rfl, rfl, rfl, rfl, rfl⟩, ?_,
      .keeping (by simp [hk]) (Player.grantedAll_piles ..),
      .quiet (by simp [hk]) (by simp [hk]) rfl (Player.grantedAll_outposts ..)⟩
    refine holding_of_uses (MoveKind.uses?_counter.mpr hcredit) (huses c) (fun y => ?_) rfl rfl
    rw [grants_of_closed hk hd rfl, Player.holds_grantedAll]

theorem fight_course (hp : s.MayMove m p) (hk : m.kind = .fight) (h : s.fight p m.spot = .ok r) :
    ∃ q, Course s p m r.state q := by
  have hcredit : m.kind.credit? = some .fight := by rw [hk]; rfl
  obtain ⟨x, hx, hmay, -, rfl⟩ := fight_eq_ok.mp h
  exact ⟨_, rfl, rfl, ⟨rfl, rfl, rfl, rfl, rfl⟩,
    holding_of_spent hp hcredit (by simp [hk]) rfl rfl rfl rfl rfl rfl,
    .keeping (by simp [hk]) rfl, .fighting x hk (namedSpot_eq_ok.mp hx).2 hmay rfl rfl⟩

theorem buildOutpost_course (hp : s.MayMove m p) (hk : m.kind = .buildOutpost)
    (h : s.buildOutpost p m.spot = .ok r) : ∃ q, Course s p m r.state q := by
  have hcredit : m.kind.credit? = some .outpost := by rw [hk]; rfl
  obtain ⟨x, hx, hmay, -, rfl⟩ := buildOutpost_eq_ok.mp h
  exact ⟨_, rfl, rfl, ⟨rfl, rfl, rfl, rfl, rfl⟩,
    holding_of_spent hp hcredit (by simp [hk]) rfl rfl rfl rfl rfl rfl,
    .keeping (by simp [hk]) rfl, .building x hk (namedSpot_eq_ok.mp hx).2 hmay rfl rfl⟩

theorem placeArmy_course (hk : m.kind = .placeArmy) (h : s.placeArmy p m.spot = .ok r) :
    ∃ q, Course s p m r.state q := by
  obtain ⟨x, harmies, hx, hmay, -, rfl⟩ := placeArmy_eq_ok.mp h
  refine ⟨_, rfl, rfl, ⟨rfl, rfl, rfl, rfl, rfl⟩, ?_, .keeping (by simp [hk]) rfl,
    .placing x hk (namedSpot_eq_ok.mp hx).2 hmay rfl rfl⟩
  refine holding_of_uses (by rw [hk]; rfl) (Player.uses_army harmies) (fun y => ?_) rfl rfl
  rw [grants_eq_nil (by simp [hk])]
  exact (add_zero _).symm

theorem answerChoice_course (hk : m.kind = .resolveChoice)
    (h : s.answerChoice p (m.intent.getD 0) m.choice = .ok r) : ∃ q, Course s p m r.state q := by
  obtain ⟨x, name, b, -, hx, hname, hb, rfl⟩ := answerChoice_eq_ok.mp h
  have hgrants (t : State String Int) : s.grants m t = b.deltas := by
    simp [grants, hk, answered?_of_choice hk hx hname, hb]
  refine ⟨_, rfl, Player.grantedAll_id .., ⟨rfl, rfl, rfl, rfl, rfl⟩, ?_,
    .keeping (by simp [hk]) (Player.grantedAll_piles ..),
    .quiet (by simp [hk]) (by simp [hk]) rfl (Player.grantedAll_outposts ..)⟩
  refine holding_of_free (by rw [hk]; rfl) (pays_eq_nil (by simp [hk])) (fun y => ?_) rfl rfl
    (by simp [hk]) (by simp [hk])
  rw [hgrants, Player.holds_grantedAll]

section Conditional
variable {intent : Conditional}

theorem declined_course (hs : s.Seated) (hp : s.MayMove m p) (hk : m.kind = .resolveConditional)
    (hno : m.accept.truthy = false) : Course s p m { s with conditionals := s.conditionals.tail } p := by
  have hnone : s.paidFor? m = none := by simp [paidFor?, hno]
  have hgrants (t : State String Int) : s.grants m t = [] := by
    simp [grants, answered?, hk, hnone]
  refine ⟨by rw [hs.withPlayer_self (hs.mem hp.current)], rfl, ⟨rfl, rfl, rfl, rfl, rfl⟩, ?_,
    .keeping (by simp [hk]) rfl, .quiet (by simp [hk]) (by simp [hk]) rfl rfl⟩
  refine holding_of_free (by rw [hk]; rfl) (by simp [pays, hk, hnone]) (fun y => ?_) rfl rfl
    (by simp [hk]) (by simp [hk])
  rw [hgrants]
  exact (add_zero _).symm

/-- A conditional is accepted: one that costs cards is owed for, any other is paid for and granted. -/
theorem accepted_course {b : Benefit} (hk : m.kind = .resolveConditional)
    (hyes : m.accept.truthy = true) (hfront : s.conditionals.head? = some intent)
    (hb : intent.Grants m.choice b) (hafford : p.affords intent.cost = true) :
    ∃ q, Course s p m (s.accepted p intent b).state q := by
  unfold accepted
  cases hkind : intent.cost.kind with
  | discard =>
    have hnone : s.paidFor? m = none := by simp [paidFor?, hfront, hkind]
    exact ⟨_, rfl, rfl, ⟨rfl, rfl, rfl, rfl, rfl⟩,
      .owing intent rfl rfl hk (List.mem_of_head? hfront) (by simp [grants, answered?, hk, hnone])
        (by simp [pays, hk, hnone]) rfl rfl,
      .keeping (by simp [hk]) rfl, .quiet (by simp [hk]) (by simp [hk]) rfl rfl⟩
  | pay =>
    have hx : s.paidFor? m = some intent := by simp [paidFor?, hyes, hfront, hkind]
    have hgrants (t : State String Int) : s.grants m t = b.deltas := by
      simp [grants, hk, answered?_of_conditional hk hx hb]
    have hpays : s.pays m = intent.cost.payment := by simp [pays, hk, hx]
    have hfree : m.kind.uses? = none := by rw [hk]; rfl
    refine ⟨_, rfl, by simp, ⟨rfl, rfl, rfl, rfl, rfl⟩, ?_,
      .keeping (by simp [hk]) (by simp), .quiet (by simp [hk]) (by simp [hk]) rfl (by simp)⟩
    refine .trading rfl rfl (by simp [hk]) (by simp [hk]) (fun y hy => ?_) fun y => ?_
    · rw [hpays, MoveKind.use_eq_zero hfree, add_zero]
      exact Player.payment_le hafford hy
    · rw [hgrants, hpays, MoveKind.use_eq_zero hfree, Player.holds_grantedAll, Player.holds_paid]
      ring

theorem answerConditional_course (hs : s.Seated) (hp : s.MayMove m p)
    (hk : m.kind = .resolveConditional)
    (h : s.answerConditional p m.accept.truthy m.choice = .ok r) : ∃ q, Course s p m r.state q := by
  obtain ⟨x, -, hfront, -, ⟨hno, rfl⟩ | ⟨hyes, b, hb, hafford, rfl⟩⟩ := answerConditional_eq_ok.mp h
  · exact ⟨p, declined_course hs hp hk hno⟩
  · exact accepted_course hk hyes hfront hb hafford

end Conditional

theorem perform_course (hs : s.Seated) (hp : s.MayMove m p)
    (h : s.perform rules shuffle p m = .ok r) : ∃ q, Course s p m r.state q := by
  unfold perform at h
  cases hk : m.kind <;> rw [hk] at h <;> simp only [] at h
  case expand => exact expand_course hs hp hk h
  case consolidate => exact consolidate_course hk h
  case endTurn =>
    split at h
    · rename_i hsetup
      exact Except.ok.inj h ▸ start_course hk hsetup
    · exact endTurn_course hk h
  case draw => exact draw_course hp hk h
  case take => exact take_course hp hk h
  case discard => exact discard_course hp hk h
  case exile => exact exile_course hp hk h
  case bury => exact bury_course hp hk h
  case revive => exact revive_course hp hk h
  case fight => exact fight_course hp hk h
  case buildOutpost => exact buildOutpost_course hp hk h
  case placeArmy => exact placeArmy_course hk h
  case resolveChoice => exact answerChoice_course hk h
  case resolveConditional => exact answerConditional_course hs hp hk (need_bind_eq_ok.mp h).2

end State

theorem Course.recorded {history : List Move} (h : Course s p m t q) :
    Course s p m { t with history := history } q := by
  obtain ⟨players, id, fixed, holding, stacking, turf⟩ := h
  refine ⟨players, id, ⟨fixed.id, fixed.rulebook, fixed.marketSize, fixed.seed, fixed.notes⟩, ?_,
    stacking, ?_⟩
  · cases holding with
    | trading seat turn hm opening funded holds =>
      exact .trading seat turn hm opening funded holds
    | owing c seat turn hm hc grants pays counters armies =>
      exact .owing c seat turn hm hc grants pays counters armies
    | passing seat turn hm grants pays counters armies =>
      exact .passing seat turn hm grants pays counters armies
  · cases turf with
    | quiet hplace hfight spots outposts => exact .quiet hplace hfight spots outposts
    | placing x hm hx may spots outposts => exact .placing x hm hx may spots outposts
    | fighting x hm hx may spots outposts => exact .fighting x hm hx may spots outposts
    | building x hm hx may spots outposts => exact .building x hm hx may spots outposts

theorem State.play_course (hs : s.Seated) (h : s.play rules shuffle m = .ok r) :
    ∃ p q, s.MayMove m p ∧ Course s p m r.state q := by
  obtain ⟨p, y, hp, hy, rfl⟩ := State.play_eq_ok.mp h
  obtain ⟨q, hq⟩ := State.perform_course hs hp hy
  exact ⟨p, q, hp, hq.recorded⟩

/-- What holds of players who have been dealt cards, and outlasts the moves that a player makes,
holds of all players. -/
theorem Reachable.players_induction {P : Player String Int → Prop}
    (h : Reachable rules shuffle s) (dealt : ∀ {p}, State.Dealt rules p → P p)
    (moved : ∀ {s t p q m}, Reachable rules shuffle s → Course s p m t q → P p → P q) :
    ∀ p ∈ s.players, P p := by
  induction h with
  | deal h =>
    obtain ⟨-, cards, -, rfl⟩ := State.newGame_eq_ok.mp h
    exact fun p hp => dealt (State.deal_players p hp)
  | @step s h x ih =>
    apply State.after_induction (P := fun t => ∀ p ∈ t.players, P p) ih
    · intro m r hr u hu
      obtain ⟨p, q, hp, hcourse⟩ := State.play_course h.seated hr
      rw [hcourse.players] at hu
      rcases State.mem_withPlayer hu with rfl | ⟨hu, -⟩
      · exact moved h hcourse (ih p (h.seated.mem hp.current))
      · exact ih u hu
    · exact fun _ => ih
    · exact fun _ => ih

end GuildCards
