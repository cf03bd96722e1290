import Mathlib
import GuildCards.Proofs.Board.Spots
import GuildCards.Proofs.Play.Balances
import GuildCards.Proofs.Play.Ending

/-!
What a move leaves alone. Only the player who moves changes, and one spot of the map at most; what
does not outlast a turn is the current player's alone, and whoever is next begins without any of it.
-/
namespace GuildCards
open Document Effect

variable {rules : Rulebook String} {shuffle : Shuffler String Int} {s t : State String Int}
  {p q : Player String Int} {r : Played String Int} {m : Move}

/-- A player with nothing that a turn would take away: no knowledge and no credits. -/
def Player.Idle (p : Player String Int) : Prop :=
  ∀ c : Counter, c.lasts = false → p.counters.get c = 0

theorem Course.idle (h : Course s p m t q) (hm : m.kind = .endTurn ∨ m.kind = .consolidate)
    (hothers : ∀ u ∈ s.players, u.id ≠ p.id → u.Idle) (hself : s.phase = .setup → p.Idle) :
    ∀ u ∈ t.players, u.Idle := by
  intro u hu
  rw [h.players] at hu
  rcases State.mem_withPlayer hu with rfl | ⟨hu, hne⟩
  · intro c hc
    cases h.holding with
    | trading seat turn hconsolidate opening funded holds =>
      -- the move opens the game, and that grants nothing and costs nothing
      have hk := hm.resolve_right hconsolidate
      have hgrants : s.grants m t = [] := State.grants_eq_nil (by simp [hk])
      have hpays : s.pays m = [] := State.pays_eq_nil (by simp [hk])
      have hholds := holds (.counter c)
      rw [hgrants, hpays, MoveKind.use_eq_zero (by rw [hk]; rfl)] at hholds
      have hsame : u.counters.get c = p.counters.get c + 0 - 0 - 0 := hholds
      rw [hsame, hself (opening hk) c hc]
      rfl
    | owing d seat turn hk => simp [hk] at hm
    | passing seat turn hk grants pays counters armies =>
      rw [counters, Counters.get_endTurn, hc]
      rfl
  · exact hothers u hu (h.id ▸ hne)

/-- A turn begins with no other moves than those that end one, and the one that opens the game. -/
theorem Holding.begins (h : Holding s p m t q) (hp : s.MayMove m p)
    (ht : t.turn ≠ s.turn ∨ s.phase = .setup) : m.kind = .endTurn ∨ m.kind = .consolidate := by
  rcases ht with ht | ht
  · cases h with
    | trading seat turn => exact absurd turn ht
    | owing c seat turn => exact absurd turn ht
    | passing seat turn hm => exact hm
  · exact .inl (hp.started.resolve_left (not_not.mpr ht))

namespace Reachable

theorem balanced (h : Reachable rules shuffle s) : ∃ es, Balanced rules s es := by
  induction h with
  | deal h => exact ⟨[], Balanced.newGame h⟩
  | step h x ih =>
    obtain ⟨es, hes⟩ := ih
    exact ⟨_, hes.after h.seated x⟩

theorem others_idle (h : Reachable rules shuffle s) (hp : p ∈ s.players)
    (hcurrent : s.current ≠ .ok p) : p.Idle := by
  obtain ⟨es, hes⟩ := h.balanced
  exact hes.idle p hp fun hseat => hcurrent (State.current_eq_ok.mpr hseat)

theorem idle_of_id_ne (h : Reachable rules shuffle s) (hq : atSeat? s.players s.seat = some q) :
    ∀ u ∈ s.players, u.id ≠ q.id → u.Idle := by
  intro u hu hne
  refine h.others_idle hu fun hcurrent => hne ?_
  rw [Option.some.inj ((State.current_eq_ok.mp hcurrent).symm.trans hq)]

theorem idle_of_setup (h : Reachable rules shuffle s) :
    s.phase = .setup → ∀ p ∈ s.players, p.Idle := by
  induction h with
  | deal h =>
    obtain ⟨-, cards, -, rfl⟩ := State.newGame_eq_ok.mp h
    intro _ p hp c hc
    rw [(State.deal_players p hp).counters, Counters.get_set, if_neg (by rintro rfl; cases hc),
      Counters.none, Counters.get_of]
    rfl
  | @step s h x ih =>
    apply State.after_induction (P := fun t => t.phase = .setup → ∀ p ∈ t.players, p.Idle) ih
    · intro m r hr hsetup
      obtain ⟨p, q, hp, hcourse⟩ := State.play_course h.seated hr
      have hs : s.phase = .setup := by
        rcases State.phase_of_play h.seated hr with heq | ⟨heq, -⟩
        · exact heq ▸ hsetup
        · exact heq
      exact hcourse.idle (hcourse.holding.begins hp (.inr hs)) (h.idle_of_id_ne hp.current) fun _ =>
        ih hs p (h.seated.mem hp.current)
    · intro _ hended
      cases hended
    · exact fun _ => ih

end Reachable

/-- Turns do not leak and players do not touch each other. Whoever is not to move has no knowledge
and no credits, and when a turn begins nobody has. An accepted move leaves everybody but the player
who makes it as they were, changes one spot at most and only who holds it, and nothing of what is
fixed for the game. -/
theorem turns_apart (hsites : (rules.sites.map (·.id)).Nodup) (h : Reachable rules shuffle s) :
    (∀ p ∈ s.players, s.current ≠ .ok p ∨ s.phase = .setup → p.Idle) ∧
      ∀ m r, s.play rules shuffle m = .ok r →
        (r.state.turn ≠ s.turn ∨ s.phase = .setup → ∀ p ∈ r.state.players, p.Idle) ∧
        (∃ p, s.current = .ok p ∧ m.player = .text p.id ∧
          List.Forall₂ (fun u v => v.id = u.id ∧ (u.id ≠ p.id → v = u))
            s.players r.state.players) ∧
        (∃ i : Nat, ∀ j, j ≠ i → r.state.spots[j]? = s.spots[j]?) ∧
        r.state.spots.map Spot.place = s.spots.map Spot.place ∧ s.Fixed r.state := by
  refine ⟨fun p hp hidle => ?_, fun m r hr => ?_⟩
  · exact hidle.elim (h.others_idle hp) fun hsetup => h.idle_of_setup hsetup p hp
  obtain ⟨p, q, hp, hcourse⟩ := State.play_course h.seated hr
  have hmem := h.seated.mem hp.current
  refine ⟨fun hbegins => ?_, ⟨p, State.current_eq_ok.mpr hp.current, hp.named, ?_⟩, ?_,
    hcourse.turf.places (h.charted hsites), hcourse.fixed⟩
  · exact hcourse.idle (hcourse.holding.begins hp hbegins) (h.idle_of_id_ne hp.current)
      fun hsetup => h.idle_of_setup hsetup p hmem
  · rw [hcourse.players]
    exact State.forall₂_withPlayer h.seated hmem hcourse.id
      ⟨hcourse.id, fun hne => absurd rfl hne⟩ fun _ _ => ⟨rfl, fun _ => rfl⟩
  · rcases hcourse.turf.changes (h.charted hsites) with heq | ⟨i, x, y, -, -, heq⟩
    · exact ⟨0, fun j _ => by rw [heq]⟩
    · exact ⟨i, fun j hj => by rw [heq, List.getElem?_set_ne hj.symm]⟩

/-- In a turn in which there are fights to make, the player who is not to move has none of the nine that
do not outlast a turn, though there were fights the turn before. A fight frees a spot of that player,
who stays as before, and when the turn ends nobody has a fight left. -/
theorem turns_apart_sample :
    (skirmishRulebook.sites.map (·.id)).Nodup ∧
      ∃ s₀ : State String Int,
        newGame skirmishRulebook unshuffled "game" 7 ["Ada", "Ben"] = .ok s₀ ∧
          let s := s₀.run skirmishRulebook unshuffled (skirmishSteps.take 7)
          (∃ r, s.play skirmishRulebook unshuffled (.onSpot .fight "player-2" (1 : Int)) = .ok r ∧
            s.spots.map (·.armies) = [1, 1] ∧ r.state.spots.map (·.armies) = [0, 1] ∧
            ∃ p, s.current = .ok p ∧ p.counters = { Counters.settled 5 1 with fight := 2 } ∧
              List.Forall₂ (fun u v => v.id = u.id ∧ (u.id ≠ p.id → v = u))
                s.players r.state.players) ∧
          (∃ u ∈ s.players, s.current ≠ .ok u ∧ u.counters =
            { gold := 5, victoryPoints := 0, knowledge := 0, draw := 0, take := 0, discard := 0
              exile := 0, bury := 0, fight := 0, outpost := 0, revive := 0 }) ∧
          ∃ r, s.play skirmishRulebook unshuffled (.plain .endTurn "player-2") = .ok r ∧
            ∀ u ∈ r.state.players, u.counters =
              .settled u.counters.gold u.counters.victoryPoints := by
  obtain ⟨s₀, h⟩ : ∃ s₀ : State String Int,
      newGame skirmishRulebook unshuffled "game" 7 ["Ada", "Ben"] = .ok s₀ := ⟨_, rfl⟩
  let s := s₀.run skirmishRulebook unshuffled (skirmishSteps.take 7)
  let fight : Move := .onSpot .fight "player-2" (1 : Int)
  let ending : Move := .plain .endTurn "player-2"
  have hplayers : s.current.toOption.map (fun p => (p.id, p.counters)) =
        some ("player-2", { Counters.settled 5 1 with fight := 2 }) ∧
      s.players.map (fun u => (u.id, u.counters.gold, u.counters.victoryPoints)) =
        [("player-1", 5, 0), ("player-2", 5, 1)] := by
    subst s
    obtain rfl := Except.ok.inj h
    rw [emptyMap_skirmish]
    decide +kernel
  have hmoves : s.spots.map (·.armies) = [1, 1] ∧
      (s.play skirmishRulebook unshuffled fight).toOption.map
        (fun r => r.state.spots.map (·.armies)) = some [0, 1] ∧
      (s.play skirmishRulebook unshuffled ending).toOption.map
        (fun r => decide (r.state.turn ≠ s.turn)) = some true := by
    subst s
    obtain rfl := Except.ok.inj h
    rw [emptyMap_skirmish]
    decide +kernel
  have hsites : (skirmishRulebook.sites.map (·.id)).Nodup := by decide
  obtain ⟨hbefore, hfight, hending⟩ := hmoves
  obtain ⟨r, hr, hafter⟩ := toOption_map_eq_some.mp hfight
  obtain ⟨r', hr', hturn⟩ := toOption_map_eq_some.mp hending
  obtain ⟨hcurrent, hall⟩ := hplayers
  obtain ⟨p, hp, hself⟩ := toOption_map_eq_some.mp hcurrent
  obtain ⟨hid, hcounters⟩ := Prod.mk.inj hself
  obtain ⟨hidle, hplay⟩ := turns_apart hsites (Reachable.run (.deal h) (skirmishSteps.take 7))
  refine ⟨hsites, s₀, h, ⟨r, hr, hbefore, hafter, p, hp, hcounters, ?_⟩, ?_, r', hr', fun u hu => ?_⟩
  · obtain ⟨-, ⟨q, hq, -, hothers⟩, -⟩ := hplay fight r hr
    exact Except.ok.inj (hp.symm.trans hq) ▸ hothers
  · have hother : ("player-1", 5, 0) ∈
        s.players.map fun u => (u.id, u.counters.gold, u.counters.victoryPoints) :=
      hall ▸ List.mem_cons_self
    obtain ⟨u, hu, heq⟩ := List.mem_map.mp hother
    simp only [Prod.mk.injEq] at heq
    obtain ⟨huid, hgold, hpoints⟩ := heq
    have hnot : s.current ≠ .ok u := by
      intro hu
      obtain rfl := Except.ok.inj (hp.symm.trans hu)
      exact absurd (hid.symm.trans huid) (by decide)
    refine ⟨u, hu, hnot, ?_⟩
    rw [Counters.eq_settled (hidle u hu (.inl hnot)), hgold, hpoints]
    rfl
  · obtain ⟨hbegins, -⟩ := hplay ending r' hr'
    exact Counters.eq_settled (hbegins (.inl (of_decide_eq_true hturn)) u hu)

end GuildCards
