import Mathlib
import GuildCards.Proofs.Play.Run

/-!
Seats. In every state of a run the players have different ids and the current seat is somebody's, so
the current player is found by id as well as by seat.
-/
namespace GuildCards
open Document

variable {rules : Rulebook String} {shuffle : Shuffler String Int} {s : State String Int}
  {p q : Player String Int} {r : Played String Int} {m : Move} {card : Value}

theorem map_ite_eq_set {α κ : Type} [DecidableEq κ] {key : α → κ} {as : List α} {i : Nat} {a b : α}
    (has : (as.map key).Nodup) (ha : as[i]? = some a) (hb : key b = key a) :
    (as.map fun x => if key x = key b then b else x) = as.set i b := by
  obtain ⟨hlt, -⟩ := List.getElem?_eq_some_iff.mp ha
  refine List.ext_getElem? fun j => ?_
  rw [List.getElem?_map, List.getElem?_set]
  split_ifs with hij
  · rw [← hij, ha, Option.map_some, if_pos hb.symm]
  · cases hj : as[j]? with
    | none => rfl
    | some x =>
      rw [Option.map_some, if_neg]
      intro hx
      -- two items of one key are at one place
      have hsame : (as.map key)[i]? = (as.map key)[j]? := by
        rw [List.getElem?_map, List.getElem?_map, ha, hj, Option.map_some, Option.map_some, hx, hb]
      have hlen : i < (as.map key).length := by rwa [List.length_map]
      exact hij ((List.getElem?_inj hlen has).mp hsame)

namespace State

theorem players_withPlayer (s : State String Int) (p : Player String Int) :
    (s.withPlayer p).players = s.players.map fun q => if q.id = p.id then p else q := by
  simp [withPlayer]

@[simp] theorem ids_withPlayer (s : State String Int) (p : Player String Int) :
    (s.withPlayer p).players.map (·.id) = s.players.map (·.id) := by
  rw [players_withPlayer, List.map_map]
  apply List.map_congr_left
  intro q _
  by_cases h : q.id = p.id <;> simp [h]

theorem mem_withPlayer (h : q ∈ (s.withPlayer p).players) :
    q = p ∨ (q ∈ s.players ∧ q.id ≠ p.id) := by
  rw [players_withPlayer] at h
  obtain ⟨x, hx, rfl⟩ := List.mem_map.mp h
  split
  · exact .inl rfl
  · exact .inr ⟨hx, ‹_›⟩

theorem mem_of_atSeat? {α : Type} {as : List α} {seat : Int} {a : α}
    (h : atSeat? as seat = some a) : a ∈ as := by
  unfold atSeat? at h
  split_ifs at h <;> exact List.mem_of_getElem? h

theorem withPlayer_withPlayer (s : State String Int) (h : q.id = p.id) :
    (s.withPlayer p).withPlayer q = s.withPlayer q := by
  simp only [withPlayer, Datum.same_text, decide_eq_true_eq, List.map_map, State.mk.injEq, true_and,
    and_true]
  apply List.map_congr_left
  intro x _
  by_cases hx : x.id = p.id <;> simp [hx, h]

theorem discard_cases (h : s.discard p card = .ok r) :
    ∃ c, named p.hand card = some c ∧
      (((s.deferred = none ∨ 0 < (discarded p c).counters.discard) ∧
          r.state = s.withPlayer (discarded p c)) ∨
        ∃ d, s.deferred = some d ∧ (discarded p c).counters.discard ≤ 0 ∧
          r.state = { s.withPlayer ((discarded p c).grantedAll d.benefit.deltas) with
            conditionals := s.conditionals.tail, deferred := none }) := by
  obtain ⟨c, hc, rfl⟩ := discard_eq_ok.mp h
  refine ⟨c, hc, ?_⟩
  have hd : (s.withPlayer (discarded p c)).deferred = s.deferred := rfl
  cases hs : s.deferred with
  | none => exact .inl ⟨.inl rfl, by simp [settled, hd, hs]⟩
  | some d =>
    by_cases hpos : 0 < (discarded p c).counters.discard
    · exact .inl ⟨.inr hpos, by simp [settled, hd, hs, hpos]⟩
    · refine .inr ⟨d, rfl, not_lt.mp hpos, ?_⟩
      simp only [settled, hd, hs, if_neg hpos]
      rw [withPlayer_withPlayer _ (Player.grantedAll_id ..)]
      rfl

/-- A player who has been dealt cards and has not moved yet. -/
structure Dealt (rules : Rulebook String) (p : Player String Int) : Prop where
  counters : p.counters = Counters.none.set .gold rules.startingGold
  armies : p.armies = 0
  piles : p.piles = {}
  outposts : p.outposts = []

theorem deal_players {n : Nat} {cards : List (Card String)} {names : List String} :
    ∀ p ∈ (deal (ν := Int) rules n cards names).1, Dealt rules p := by
  induction names generalizing n cards with
  | nil => simp [deal]
  | cons name names ih =>
    rw [deal, List.forall_mem_cons]
    exact ⟨⟨rfl, rfl, rfl, rfl⟩, ih⟩

/-- Everybody has another id, and the current seat is in the round unless there is nobody. -/
structure Seated (s : State String Int) : Prop where
  distinct : (s.players.map (·.id)).Nodup
  nonneg : 0 ≤ s.seat
  within : s.players ≠ [] → s.seat < s.players.length

theorem Seated.mem_iff_atSeat (hs : s.Seated) :
    atSeat? s.players s.seat = some p ↔ s.players[s.seat.toNat]? = some p := by
  rw [atSeat?, if_pos hs.nonneg]

theorem Seated.withPlayer_eq_set (hs : s.Seated) (hp : atSeat? s.players s.seat = some p)
    (hid : q.id = p.id) : s.withPlayer q = { s with players := s.players.set s.seat.toNat q } := by
  have hplayers : (s.withPlayer q).players = s.players.set s.seat.toNat q := by
    rw [players_withPlayer]
    exact map_ite_eq_set hs.distinct (hs.mem_iff_atSeat.mp hp) hid
  rw [← hplayers]
  rfl

theorem Seated.mem (hs : s.Seated) (hp : atSeat? s.players s.seat = some p) : p ∈ s.players :=
  List.mem_of_getElem? (hs.mem_iff_atSeat.mp hp)

theorem Seated.eq_of_id (hs : s.Seated) (hp : p ∈ s.players) (hq : q ∈ s.players)
    (h : p.id = q.id) : p = q := List.inj_on_of_nodup_map hs.distinct hp hq h

theorem Seated.withPlayer_self (hs : s.Seated) (hp : p ∈ s.players) : s.withPlayer p = s := by
  have h : (s.players.map fun q => if q.id = p.id then p else q) = s.players := by
    conv_rhs => rw [← List.map_id s.players]
    apply List.map_congr_left
    intro q hq
    by_cases h : q.id = p.id
    · simp [hs.eq_of_id hq hp h]
    · simp [h]
  simp [withPlayer, h]

theorem forall₂_withPlayer {R : Player String Int → Player String Int → Prop} (hs : s.Seated)
    (hp : p ∈ s.players) (hid : q.id = p.id) (hq : R p q)
    (hR : ∀ x, x.id ≠ p.id → R x x) : List.Forall₂ R s.players (s.withPlayer q).players := by
  rw [players_withPlayer, List.forall₂_map_right_iff, List.forall₂_same]
  intro x hx
  split
  · rename_i h
    rwa [hs.eq_of_id hx hp (h.trans hid)]
  · rename_i h
    exact hR x fun hxp => h (hxp.trans hid.symm)

theorem Seated.player?_id (hs : s.Seated) (hp : p ∈ s.players) :
    s.player? (.text p.id) = some p := by
  unfold player?
  cases hf : s.players.find? fun q => Datum.is q.id (.text p.id) with
  | none =>
    have := List.find?_eq_none.mp hf p hp
    simp at this
  | some q =>
    have hid : q.id = p.id := by simpa using List.find?_some hf
    rw [hs.eq_of_id (List.mem_of_find?_eq_some hf) hp hid]

theorem Seated.exists_current (hs : s.Seated) (h : s.players ≠ []) :
    ∃ p, atSeat? s.players s.seat = some p := by
  have hlt : s.seat.toNat < s.players.length := by
    have := hs.within h
    have := hs.nonneg
    omega
  exact ⟨_, hs.mem_iff_atSeat.mpr (List.getElem?_eq_getElem hlt)⟩

/-- What no kind of move changes: everybody's id, the history, the seed, the seat but by passing it
on, and the number of shuffles but by one more. -/
structure Stays (s t : State String Int) : Prop where
  ids : t.players.map (·.id) = s.players.map (·.id)
  seat : t.seat = s.seat ∨ t.seat = (s.seat + 1).fmod s.players.length
  history : t.history = s.history
  seed : t.seed = s.seed
  shuffles : t.shuffles = s.shuffles ∨ t.shuffles = s.shuffles + 1

theorem perform_stays (h : s.perform rules shuffle p m = .ok r) : Stays s r.state := by
  unfold perform at h
  cases hk : m.kind <;> rw [hk] at h <;> simp only [] at h
  case expand =>
    obtain ⟨c, t, -, rfl⟩ := expand_eq_ok.mp h
    exact ⟨ids_withPlayer s _, .inl rfl, rfl, rfl, .inl rfl⟩
  case consolidate =>
    obtain ⟨cards, q, -, -, rfl⟩ := consolidate_eq_ok.mp h
    exact ⟨ids_withPlayer _ _, .inr (by simp [turnPassed, dropIntents, withPlayer]), rfl, rfl,
      .inr rfl⟩
  case endTurn =>
    split at h
    · obtain rfl := Except.ok.inj h
      exact ⟨ids_withPlayer s _, .inl rfl, rfl, rfl, .inl rfl⟩
    · obtain ⟨q, -, rfl⟩ := endTurn_eq_ok.mp h
      exact ⟨ids_withPlayer s _, .inr (by simp [turnPassed, dropIntents, withPlayer]), rfl, rfl,
        .inl rfl⟩
  case draw =>
    rcases draw_eq_ok.mp h with ⟨-, rfl⟩ | ⟨-, -, cards, -, rfl⟩
    · exact ⟨ids_withPlayer s _, .inl rfl, rfl, rfl, .inl rfl⟩
    · exact ⟨ids_withPlayer _ _, .inl rfl, rfl, rfl, .inr rfl⟩
  case take =>
    obtain ⟨c, -, rfl⟩ := take_eq_ok.mp h
    exact ⟨ids_withPlayer s _, .inl rfl, rfl, rfl, .inl rfl⟩
  case discard =>
    obtain ⟨c, -, ⟨-, hr⟩ | ⟨d, -, -, hr⟩⟩ := discard_cases h
    · exact hr ▸ ⟨ids_withPlayer s _, .inl rfl, rfl, rfl, .inl rfl⟩
    · exact hr ▸ ⟨ids_withPlayer s _, .inl rfl, rfl, rfl, .inl rfl⟩
  case exile =>
    obtain ⟨c, -, rfl⟩ := exile_eq_ok.mp h
    exact ⟨ids_withPlayer s _, .inl rfl, rfl, rfl, .inl rfl⟩
  case bury =>
    obtain ⟨c, -, rfl⟩ := bury_eq_ok.mp h
    exact ⟨ids_withPlayer s _, .inl rfl, rfl, rfl, .inl rfl⟩
  case revive =>
    obtain ⟨c, -, rfl⟩ := revive_eq_ok.mp h
    exact ⟨ids_withPlayer s _, .inl rfl, rfl, rfl, .inl rfl⟩
  case fight =>
    obtain ⟨x, -, -, -, rfl⟩ := fight_eq_ok.mp h
    exact ⟨ids_withPlayer s _, .inl rfl, rfl, rfl, .inl rfl⟩
  case buildOutpost =>
    obtain ⟨x, -, -, -, rfl⟩ := buildOutpost_eq_ok.mp h
    exact ⟨ids_withPlayer s _, .inl rfl, rfl, rfl, .inl rfl⟩
  case placeArmy =>
    obtain ⟨x, -, -, -, -, rfl⟩ := placeArmy_eq_ok.mp h
    exact ⟨ids_withPlayer s _, .inl rfl, rfl, rfl, .inl rfl⟩
  case resolveChoice =>
    obtain ⟨c, name, b, -, -, -, -, rfl⟩ := answerChoice_eq_ok.mp h
    exact ⟨ids_withPlayer s _, .inl rfl, rfl, rfl, .inl rfl⟩
  case resolveConditional =>
    obtain ⟨-, h⟩ := need_bind_eq_ok.mp h
    obtain ⟨c, -, -, -, ⟨-, rfl⟩ | ⟨-, b, -, -, rfl⟩⟩ := answerConditional_eq_ok.mp h
    · exact ⟨rfl, .inl rfl, rfl, rfl, .inl rfl⟩
    · unfold accepted
      cases c.cost.kind <;> exact ⟨ids_withPlayer s _, .inl rfl, rfl, rfl, .inl rfl⟩

theorem Seated.play (hs : s.Seated) (h : s.play rules shuffle m = .ok r) : r.state.Seated := by
  obtain ⟨p, x, hp, hx, rfl⟩ := play_eq_ok.mp h
  obtain ⟨hids, hseat, -, -, -⟩ := perform_stays hx
  have hlen : x.state.players.length = s.players.length := by
    simpa using congrArg List.length hids
  have hpos : 0 < s.players.length := List.length_pos_iff.mpr hp.seated
  have h0 := hs.nonneg
  have h1 := hs.within hp.seated
  have hmod : (s.seat + 1).fmod s.players.length = (s.seat + 1) % s.players.length :=
    Int.fmod_eq_emod_of_nonneg _ (by omega)
  -- either way the seat is one of the round, which has as many seats as before
  rw [hmod] at hseat
  have hnn : 0 ≤ (s.seat + 1) % (s.players.length : Int) := Int.emod_nonneg _ (by omega)
  have hlt : (s.seat + 1) % (s.players.length : Int) < s.players.length :=
    Int.emod_lt_of_pos _ (by omega)
  refine ⟨hids ▸ hs.distinct, ?_, fun _ => ?_⟩
  · change 0 ≤ x.state.seat
    omega
  · change x.state.seat < x.state.players.length
    omega

theorem newGame_eq_ok {id : String} {seed : Int} {names : List String} :
    newGame rules shuffle id seed names = .ok s ↔
      rules.seats names.length = true ∧ ∃ cards, shuffle seed 0 rules.cards = .ok cards ∧
        s = { id := id, seed := seed, players := (deal (ν := Int) rules 1 cards names).1
              common := (deal (ν := Int) rules 1 cards names).2, rulebook := rules.id
              turn := 0, seat := 0, marketSize := rules.marketSize
              spots := emptyMap rules.grid rules.sites
              shuffles := 1 } := by
  unfold newGame
  cases hn : rules.seats names.length with
  | false => simp [bind, Except.bind, throw, throwThe, MonadExceptOf.throw]
  | true =>
    simp only [Bool.not_true, Bool.false_eq_true, if_false, bind_eq_ok, pure_eq_ok, true_and]
    rfl

theorem deal_ids (n : Nat) (cards : List (Card String)) (names : List String) :
    (deal (ν := Int) rules n cards names).1.map (·.id) =
      (List.range' n names.length).map fun i => s!"player-{i}" := by
  induction names generalizing n cards with
  | nil => rfl
  | cons name names ih =>
    rw [deal, List.length_cons, List.range'_succ, List.map_cons, List.map_cons, ih]
    rfl

theorem playerName_injective {i j : Nat} (h : s!"player-{i}" = s!"player-{j}") : i = j :=
  Nat.repr_inj.mp ((String.append_right_inj "player-").mp h)

theorem seated_newGame {id : String} {seed : Int} {names : List String}
    (h : newGame rules shuffle id seed names = .ok s) : s.Seated := by
  obtain ⟨-, cards, -, rfl⟩ := newGame_eq_ok.mp h
  refine ⟨?_, le_rfl, fun hne => ?_⟩
  · change ((deal rules 1 cards names).1.map (·.id)).Nodup
    rw [deal_ids]
    exact (List.nodup_range').map fun i j => playerName_injective
  · have := List.length_pos_iff.mpr hne
    change (0 : Int) < ((deal rules 1 cards names).1.length : Int)
    exact_mod_cast this

end State

theorem Reachable.seated (h : Reachable rules shuffle s) : s.Seated := by
  induction h with
  | deal h => exact State.seated_newGame h
  | step _ x ih =>
    exact State.after_induction ih (fun hr => ih.play hr)
      (fun _ => ⟨ih.distinct, ih.nonneg, ih.within⟩)
      (fun _ => ⟨ih.distinct, ih.nonneg, ih.within⟩) x

end GuildCards
