import Mathlib
import GuildCards.Proofs.Play.Seats

/-!
What an accepted move does to the player who makes it, to the piles and to the open questions. Most
kinds of moves use up one credit or one army and leave the questions alone; only a card, an answer
or the last discard owed brings anything.
-/
namespace GuildCards
open Document Effect

def MoveKind.uses? : MoveKind → Option Resource
  | .placeArmy => some .army
  | k => k.credit?.map .counter

theorem MoveKind.uses?_discard {k : MoveKind} :
    k.uses? = some (.counter .discard) ↔ k = .discard := by
  cases k <;> decide

variable {rules : Rulebook String} {shuffle : Shuffler String Int} {s t : State String Int}
  {p q : Player String Int} {r : Played String Int} {m : Move} {c : Counter} {x : Resource}

namespace Player

structure Uses (p : Player String Int) (x : Resource) (q : Player String Int) : Prop where
  id : q.id = p.id
  piles : q.piles = p.piles
  had : 0 < p.holds x
  holds : ∀ y, q.holds y = p.holds y - if y = x then 1 else 0

theorem uses_spent (had : 0 < p.counters.get c) (id : q.id = p.id) (piles : q.piles = p.piles)
    (counters : q.counters = (p.spent c).counters) (armies : q.armies = p.armies) :
    p.Uses (.counter c) q := by
  refine ⟨id, piles, had, fun y => ?_⟩
  cases y with
  | army => simp [Player.holds, armies]
  | counter d =>
    simp only [Player.holds, counters, spent, Counters.get_set, Resource.counter.injEq]
    split_ifs with h
    · rw [h]
    · rw [sub_zero]

theorem uses_army (had : 0 < p.armies) :
    p.Uses .army { p with armies := p.armies - 1 } := by
  refine ⟨rfl, rfl, had, fun y => ?_⟩
  cases y <;> simp [Player.holds]

@[simp] theorem grantedAll_piles (p : Player String Int) (ds : List Delta) :
    (p.grantedAll ds).piles = p.piles := by
  rw [grantedAll_eq]
  rfl

@[simp] theorem paid_piles (p : Player String Int) (c : Cost) : (p.paid c).piles = p.piles := by
  rw [paid_eq]
  rfl

@[simp] theorem paid_id (p : Player String Int) (c : Cost) : (p.paid c).id = p.id := by
  rw [paid_eq]
  rfl

end Player

/-- The game with the mover become another: nobody else has changed, and the turn goes on. -/
structure State.Goes (s : State String Int) (p q : Player String Int) (t : State String Int) :
    Prop where
  players : t.players = (s.withPlayer q).players
  seat : t.seat = s.seat
  phase : t.phase = s.phase
  id : q.id = p.id

/-- What an accepted move does, but for the cards that change places. -/
inductive Deed (s : State String Int) (p : Player String Int) (m : Move) (t : State String Int) :
    Prop where
  | spending (x : Resource) (q : Player String Int) (goes : s.Goes p q t)
    (hm : m.kind.uses? = some x) (hq : p.Uses x q) (choices : t.choices = s.choices)
    (conditionals : t.conditionals = s.conditionals) (deferred : t.deferred = s.deferred)
    (owing : m.kind = .discard → s.deferred ≠ none → 0 < q.counters.discard)
  | settling (d : Deferred) (q : Player String Int) (goes : s.Goes p q t) (hm : m.kind = .discard)
    (hd : s.deferred = some d) (last : p.counters.discard ≤ 1)
    (piles : q.piles = p.piles) (choices : t.choices = s.choices)
    (conditionals : t.conditionals = s.conditionals.tail) (deferred : t.deferred = none)
  | expanding (c : Card String) (q : Player String Int) (goes : s.Goes p q t)
    (hm : m.kind = .expand) (owesNothing : p.counters.discard ≤ 0)
    (room : (p.piles.get c.guild).length < pileLimit)
    (piles : q.piles = p.piles.set c.guild (p.piles.get c.guild ++ [c]))
    (deferred : t.deferred = none)
  | choosing (place : Nat) (q : Player String Int) (goes : s.Goes p q t)
    (hm : m.kind = .resolveChoice) (open_ : place < s.choices.length) (piles : q.piles = p.piles)
    (choices : t.choices = s.choices.eraseIdx place)
    (conditionals : t.conditionals = s.conditionals) (deferred : t.deferred = s.deferred)
  | closing (q : Player String Int) (goes : s.Goes p q t) (hm : m.kind = .resolveConditional)
    (hd : s.deferred = none) (open_ : s.conditionals ≠ []) (piles : q.piles = p.piles)
    (choices : t.choices = s.choices) (conditionals : t.conditionals = s.conditionals.tail)
    (deferred : t.deferred = none)
  | deferring (d : Deferred) (hm : m.kind = .resolveConditional) (hd : s.deferred = none)
    (goes : s.Goes p { p with counters := p.counters.set .discard d.intent.cost.amount } t)
    (choices : t.choices = s.choices) (conditionals : t.conditionals = s.conditionals)
    (deferred : t.deferred = some d)
  | starting (q : Player String Int) (goes : State.Goes { s with phase := .playing } p q t)
    (hm : m.kind = .endTurn) (hs : s.phase = .setup) (counters : q.counters = p.counters)
    (deferred : t.deferred = s.deferred)
  | passing (q : Player String Int) (hm : m.kind = .endTurn ∨ m.kind = .consolidate)
    (players : t.players = (s.withPlayer q).players) (phase : t.phase = s.phase)
    (id : q.id = p.id) (counters : q.counters = p.counters.endTurn) (armies : q.armies = p.armies)
    (choices : t.choices = []) (conditionals : t.conditionals = []) (deferred : t.deferred = none)

theorem Deed.recorded {history : List Move} (h : Deed s p m t) :
    Deed s p m { t with history := history } := by
  have keep {s : State String Int} {q : Player String Int} (goes : s.Goes p q t) :
      s.Goes p q { t with history := history } := ⟨goes.players, goes.seat, goes.phase, goes.id⟩
  cases h with
  | spending x q goes hm hq choices conditionals deferred owing =>
    exact .spending x q (keep goes) hm hq choices conditionals deferred owing
  | settling d q goes hm hd last piles choices conditionals deferred =>
    exact .settling d q (keep goes) hm hd last piles choices conditionals deferred
  | expanding c q goes hm owesNothing room piles deferred =>
    exact .expanding c q (keep goes) hm owesNothing room piles deferred
  | choosing place q goes hm open_ piles choices conditionals deferred =>
    exact .choosing place q (keep goes) hm open_ piles choices conditionals deferred
  | closing q goes hm hd open_ piles choices conditionals deferred =>
    exact .closing q (keep goes) hm hd open_ piles choices conditionals deferred
  | deferring d hm hd goes choices conditionals deferred =>
    exact .deferring d hm hd (keep goes) choices conditionals deferred
  | starting q goes hm hs counters deferred => exact .starting q (keep goes) hm hs counters deferred
  | passing q hm players phase id counters armies choices conditionals deferred =>
    exact .passing q hm players phase id counters armies choices conditionals deferred

namespace State

theorem admits_of_canPlayCard (hs : s.Seated) (hp : p ∈ s.players) {card : Value}
    {c : Card String} (hc : named p.hand card = some c)
    (h : s.canPlayCard (.text p.id) (.text c.id) = true) :
    (p.piles.get c.guild).admits c.color = true := by
  -- the hand is searched by the name of the card, which finds the same card again
  have hfind : Zone.named? p.hand (.text c.id) = some c := by
    have hid : Datum.is c.id (if card.truthy then card else .text "") = true := by
      simpa using List.find?_some hc
    rw [← is_iff.mp hid]
    exact hc
  simpa [canPlayCard, hs.player?_id hp, hfind] using h

theorem room_of_canPlayCard (hs : s.Seated) (hp : p ∈ s.players) {card : Value}
    {c : Card String} (hc : named p.hand card = some c)
    (h : s.canPlayCard (.text p.id) (.text c.id) = true) :
    (p.piles.get c.guild).length < pileLimit := by
  have hadmits := admits_of_canPlayCard hs hp hc h
  simp only [Pile.admits, Bool.and_eq_true, decide_eq_true_eq] at hadmits
  exact hadmits.1

theorem using_spent (hp : s.MayMove m p) (goes : s.Goes p q t) (hm : m.kind.credit? = some c)
    (hd : m.kind = .discard → s.deferred ≠ none → 0 < q.counters.discard)
    (piles : q.piles = p.piles) (counters : q.counters = (p.spent c).counters)
    (armies : q.armies = p.armies) (choices : t.choices = s.choices)
    (conditionals : t.conditionals = s.conditionals) (deferred : t.deferred = s.deferred) :
    Deed s p m t := by
  have huses : m.kind.uses? = some (.counter c) := by
    cases hk : m.kind <;> rw [hk] at hm <;> cases hm <;> rfl
  exact .spending (.counter c) q goes huses
    (Player.uses_spent (hp.credit c hm) goes.id piles counters armies) choices conditionals
    deferred hd

variable {card choice : Value} {accept : Bool}

theorem discard_deed (hp : s.MayMove m p) (hk : m.kind = .discard)
    (h : s.discard p card = .ok r) : Deed s p m r.state := by
  have hcredit : m.kind.credit? = some .discard := by rw [hk]; rfl
  obtain ⟨c, -, ⟨hd, hr⟩ | ⟨d, hd, hlast, hr⟩⟩ := discard_cases h
  · rw [hr]
    have howing : m.kind = .discard → s.deferred ≠ none → 0 < (discarded p c).counters.discard :=
      fun _ hne => hd.resolve_left hne
    exact using_spent hp ⟨rfl, rfl, rfl, rfl⟩ hcredit howing rfl rfl rfl rfl rfl rfl
  · rw [hr]
    have hone : p.counters.discard - 1 ≤ 0 := hlast
    exact .settling d _ ⟨rfl, rfl, rfl, Player.grantedAll_id ..⟩ hk hd (by omega)
      (Player.grantedAll_piles ..) rfl rfl rfl

theorem answerConditional_deed (hs : s.Seated) (hp : p ∈ s.players)
    (hk : m.kind = .resolveConditional) (h : s.answerConditional p accept choice = .ok r) :
    Deed s p m r.state := by
  obtain ⟨c, -, hfront, hnone, ⟨-, rfl⟩ | ⟨-, b, -, -, rfl⟩⟩ := answerConditional_eq_ok.mp h
  all_goals have hopen : s.conditionals ≠ [] := List.ne_nil_of_mem (List.mem_of_head? hfront)
  · have hself := hs.withPlayer_self hp
    exact .closing p ⟨by rw [hself]; rfl, rfl, rfl, rfl⟩ hk hnone hopen rfl rfl rfl hnone
  · unfold accepted
    cases c.cost.kind with
    | discard => exact .deferring ⟨c, b⟩ hk hnone ⟨rfl, rfl, rfl, rfl⟩ rfl rfl rfl
    | pay =>
      exact .closing _ ⟨rfl, rfl, rfl, by simp⟩ hk hnone hopen (by simp) rfl rfl hnone

theorem perform_deed (hs : s.Seated) (hp : s.MayMove m p)
    (h : s.perform rules shuffle p m = .ok r) : Deed s p m r.state := by
  unfold perform at h
  cases hk : m.kind <;> rw [hk] at h <;> simp only [] at h
  case expand =>
    obtain ⟨c, t, hc, rfl⟩ := expand_eq_ok.mp h
    have hroom := room_of_canPlayCard hs (hs.mem hp.current) hc.found hc.fits
    exact .expanding c _ ⟨rfl, rfl, rfl, Player.grantedAll_id ..⟩ hk hc.owesNothing hroom
      (Player.grantedAll_piles ..) rfl
  case consolidate =>
    obtain ⟨cards, q, -, -, rfl⟩ := consolidate_eq_ok.mp h
    exact .passing _ (.inr hk) rfl rfl rfl rfl rfl rfl rfl rfl
  case endTurn =>
    split at h
    · rename_i hsetup
      obtain rfl := Except.ok.inj h
      exact .starting _ ⟨rfl, rfl, rfl, rfl⟩ hk hsetup rfl rfl
    · obtain ⟨q, -, rfl⟩ := endTurn_eq_ok.mp h
      exact .passing _ (.inl hk) rfl rfl rfl rfl rfl rfl rfl rfl
  case draw =>
    have hcredit : m.kind.credit? = some .draw := by rw [hk]; rfl
    rcases draw_eq_ok.mp h with ⟨-, rfl⟩ | ⟨-, -, cards, -, rfl⟩
    · exact using_spent hp ⟨rfl, rfl, rfl, rfl⟩ hcredit (by simp [hk]) rfl rfl rfl rfl rfl rfl
    · exact using_spent hp ⟨rfl, rfl, rfl, rfl⟩ hcredit (by simp [hk]) rfl rfl rfl rfl rfl rfl
  case take =>
    have hcredit : m.kind.credit? = some .take := by rw [hk]; rfl
    obtain ⟨c, -, rfl⟩ := take_eq_ok.mp h
    exact using_spent hp ⟨rfl, rfl, rfl, rfl⟩ hcredit (by simp [hk]) rfl rfl rfl rfl rfl rfl
  case discard => exact discard_deed hp hk h
  case exile =>
    have hcredit : m.kind.credit? = some .exile := by rw [hk]; rfl
    obtain ⟨c, -, rfl⟩ := exile_eq_ok.mp h
    exact using_spent hp ⟨rfl, rfl, rfl, rfl⟩ hcredit (by simp [hk]) rfl rfl rfl rfl rfl rfl
  case bury =>
    have hcredit : m.kind.credit? = some .bury := by rw [hk]; rfl
    obtain ⟨c, -, rfl⟩ := bury_eq_ok.mp h
    exact using_spent hp ⟨rfl, rfl, rfl, rfl⟩ hcredit (by simp [hk]) rfl rfl rfl rfl rfl rfl
  case revive =>
    have hcredit : m.kind.credit? = some .revive := by rw [hk]; rfl
    obtain ⟨c, -, rfl⟩ := revive_eq_ok.mp h
    exact using_spent hp ⟨rfl, rfl, rfl, rfl⟩ hcredit (by simp [hk]) rfl rfl rfl rfl rfl rfl
  case fight =>
    have hcredit : m.kind.credit? = some .fight := by rw [hk]; rfl
    obtain ⟨x, -, -, -, rfl⟩ := fight_eq_ok.mp h
    exact using_spent hp ⟨rfl, rfl, rfl, rfl⟩ hcredit (by simp [hk]) rfl rfl rfl rfl rfl rfl
  case buildOutpost =>
    have hcredit : m.kind.credit? = some .outpost := by rw [hk]; rfl
    obtain ⟨x, -, -, -, rfl⟩ := buildOutpost_eq_ok.mp h
    exact using_spent hp ⟨rfl, rfl, rfl, rfl⟩ hcredit (by simp [hk]) rfl rfl rfl rfl rfl rfl
  case placeArmy =>
    obtain ⟨x, harmies, -, -, -, rfl⟩ := placeArmy_eq_ok.mp h
    exact .spending .army _ ⟨rfl, rfl, rfl, rfl⟩ (by rw [hk]; rfl)
      (Player.uses_army harmies) rfl rfl rfl (by simp [hk])
  case resolveChoice =>
    obtain ⟨c, name, b, -, hc, -, -, rfl⟩ := answerChoice_eq_ok.mp h
    obtain ⟨hplace, -⟩ := List.getElem?_eq_some_iff.mp hc
    exact .choosing _ _ ⟨rfl, rfl, rfl, Player.grantedAll_id ..⟩ hk hplace
      (Player.grantedAll_piles ..) rfl rfl rfl
  case resolveConditional =>
    obtain ⟨-, h⟩ := need_bind_eq_ok.mp h
    exact answerConditional_deed hs (hs.mem hp.current) hk h

theorem play_deed (hs : s.Seated) (h : s.play rules shuffle m = .ok r) :
    ∃ p, s.MayMove m p ∧ Deed s p m r.state := by
  obtain ⟨p, y, hp, hy, rfl⟩ := play_eq_ok.mp h
  exact ⟨p, hp, (perform_deed hs hp hy).recorded⟩

theorem Goes.current (hs : s.Seated) (hp : atSeat? s.players s.seat = some p)
    (h : s.Goes p q t) : atSeat? t.players t.seat = some q := by
  rw [hs.mem_iff_atSeat] at hp
  rw [h.players, h.seat, atSeat?, if_pos hs.nonneg, players_withPlayer, List.getElem?_map, hp,
    Option.map_some, if_pos h.id.symm]

end State
end GuildCards
