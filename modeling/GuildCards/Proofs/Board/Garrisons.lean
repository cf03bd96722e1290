import Mathlib
import GuildCards.Proofs.Board.Spots
import GuildCards.Proofs.Play.History

/-!
The armies on the map. A spot is held by one of the players just when armies stand on it; a
placement moves an army from its player to the map and a fight takes one off. So what a player has
at hand and on the map is what effects granted, less what costs took and what others fought down.
-/
namespace GuildCards
open Document Effect

variable {rules : Rulebook String} {shuffle : Shuffler String Int} {s t s₀ : State String Int}
  {p q : Player String Int} {r : Played String Int} {m : Move} {x y : Spot String Int}
  {ids : List String} {name : String} {es : Ledger} {lost : List String} {i : Nat}

namespace Spot

def share (x : Spot String Int) (name : String) : Int :=
  if x.holder = some name then x.armies else 0

/-- A spot that one of some players holds just when armies stand on it. -/
structure Manned (ids : List String) (x : Spot String Int) : Prop where
  held : x.holder.isSome = true ↔ 0 < x.armies
  nonneg : 0 ≤ x.armies
  seated : ∀ name, x.holder = some name → name ∈ ids

def reinforced (x : Spot String Int) (name : String) : Spot String Int :=
  { x with holder := some name, armies := x.armies + 1 }

theorem Manned.reinforced (h : x.Manned ids) (hname : name ∈ ids) :
    (x.reinforced name).Manned ids := by
  have hpos : 0 < x.armies + 1 := Int.lt_add_one_of_le h.nonneg
  exact ⟨iff_of_true rfl hpos, hpos.le, fun u hu => Option.some.inj hu ▸ hname⟩

theorem Manned.pos (h : x.Manned ids) (hx : x.holder = some name) : 0 < x.armies :=
  h.held.mp (by rw [hx]; rfl)

theorem Manned.attacked_eq (h : x.Manned ids) (hx : x.holder = some name) :
    x.attacked.holder = (if 1 < x.armies then some name else none) ∧
      x.attacked.armies = x.armies - 1 := by
  have hpos := h.pos hx
  refine ⟨?_, max_eq_left (Int.sub_nonneg_of_le hpos)⟩
  simp only [Spot.attacked, hx, sub_pos]

theorem Manned.attacked (h : x.Manned ids) (hx : x.holder = some name) :
    x.attacked.Manned ids := by
  have hpos := h.pos hx
  obtain ⟨hholder, harmies⟩ := h.attacked_eq hx
  refine ⟨?_, by omega, fun u hu => h.seated u ?_⟩
  · rw [hholder, harmies]
    split_ifs with hleft
    · exact iff_of_true rfl (sub_pos.mpr hleft)
    · exact iff_of_false Bool.false_ne_true (fun hmore => hleft (sub_pos.mp hmore))
  · rw [hholder] at hu
    split_ifs at hu
    rw [hx, hu]

theorem Manned.share_reinforced (h : x.Manned ids) (hx : ∀ u, x.holder = some u → u = name)
    (u : String) :
    (x.reinforced name).share u = x.share u + if u = name then 1 else 0 := by
  change (if some name = some u then x.armies + 1 else 0) = _
  by_cases hu : u = name
  · subst hu
    rw [if_pos rfl, if_pos rfl, share]
    split_ifs with hholder
    · rfl
    · -- nobody was there, so no armies were
      have hnone : x.holder = none := Option.eq_none_iff_forall_ne_some.mpr fun v hv =>
        hholder (hx v hv ▸ hv)
      have hzero : ¬ 0 < x.armies := fun hpos => by simpa [hnone] using h.held.mpr hpos
      have := h.nonneg
      omega
  · have hother : x.holder ≠ some u := fun hholder => hu (hx u hholder)
    rw [if_neg fun heq => hu (Option.some.inj heq).symm, share, if_neg hother, if_neg hu, add_zero]

theorem Manned.share_attacked (h : x.Manned ids) (hx : x.holder = some name) (u : String) :
    x.attacked.share u = x.share u - if u = name then 1 else 0 := by
  have hpos := h.pos hx
  obtain ⟨hholder, harmies⟩ := h.attacked_eq hx
  rw [share, share, hholder, harmies, hx]
  by_cases hu : u = name
  · rw [hu, if_pos rfl, if_pos rfl]
    by_cases hleft : 1 < x.armies
    · rw [if_pos hleft, if_pos rfl]
    · rw [if_neg hleft, if_neg nofun]
      omega
  · have hne : some name ≠ some u := fun heq => hu (Option.some.inj heq).symm
    rw [if_neg hne, if_neg hu, if_neg, sub_zero]
    split_ifs
    · exact hne
    · exact nofun

theorem isHeldAgainst_text :
    x.isHeldAgainst (.text name) = true ↔ ∃ u, x.holder = some u ∧ u ≠ name := by
  simp [isHeldAgainst, Option.any_eq_true]

end Spot

namespace State

def garrison (s : State String Int) (name : String) : Int := (s.spots.map (·.share name)).sum

theorem garrison_set (hi : s.spots[i]? = some x) (ht : t.spots = s.spots.set i y) (name : String) :
    t.garrison name = s.garrison name - x.share name + y.share name := by
  obtain ⟨hlt, rfl⟩ := List.getElem?_eq_some_iff.mp hi
  have hlen : i < (s.spots.map (·.share name)).length := by rwa [List.length_map]
  rw [garrison, ht, List.map_set, List.sum_set', dif_pos hlen, List.getElem_map]
  exact (add_assoc ..).symm.trans rfl

def raided (s : State String Int) (m : Move) : List String :=
  if m.kind = .fight then ((s.spot? m.spot).bind (·.holder)).toList else []

/-- Who held the spots that the accepted fights of a run were for, fight by fight. -/
def raids (rules : Rulebook String) (shuffle : Shuffler String Int) (s : State String Int) :
    List Step → List String
  | [] => []
  | x :: xs =>
    (s.makes rules shuffle x).flatMap s.raided ++ (s.after rules shuffle x).raids rules shuffle xs

end State

inductive Campaign (s : State String Int) (p : Player String Int) (m : Move)
    (t : State String Int) : Prop where
  | peace (hplace : m.kind ≠ .placeArmy) (raided : s.raided m = []) (spots : t.spots = s.spots)
  | landing (i : Nat) (x : Spot String Int) (hplace : m.kind = .placeArmy)
    (raided : s.raided m = []) (hi : s.spots[i]? = some x)
    (mine : ∀ u, x.holder = some u → u = p.id) (spots : t.spots = s.spots.set i (x.reinforced p.id))
  | raid (i : Nat) (x : Spot String Int) (u : String) (hplace : m.kind ≠ .placeArmy)
    (raided : s.raided m = [u]) (hi : s.spots[i]? = some x) (theirs : x.holder = some u)
    (spots : t.spots = s.spots.set i x.attacked)

theorem Turf.campaign (h : Turf s p m t q) (hs : s.Charted) : Campaign s p m t := by
  have quiet (hm : m.kind ≠ .fight) : s.raided m = [] := if_neg hm
  cases h with
  | quiet hplace hfight spots outposts => exact .peace hplace (quiet hfight) spots
  | placing x hm hx may spots outposts =>
    obtain ⟨i, hi, hset⟩ := hs.exists_set (y := x.reinforced p.id) hx rfl
    refine .landing i x hm (quiet (by simp [hm])) hi (fun u hu => ?_) (spots.trans hset)
    by_contra hne
    have hagainst := Spot.isHeldAgainst_text.mpr ⟨u, hu, hne⟩
    simp [State.canPlaceOn, hagainst] at may
  | fighting x hm hx may spots outposts =>
    obtain ⟨i, hi, hset⟩ := hs.exists_set (y := x.attacked) hx rfl
    obtain ⟨u, hu, -⟩ := Spot.isHeldAgainst_text.mp (Bool.and_eq_true_iff.mp may).1
    refine .raid i x u (by simp [hm]) ?_ hi hu (spots.trans hset)
    rw [State.raided, if_pos hm, hx, Option.bind_some, hu]
    rfl
  | building x hm hx may spots outposts =>
    exact .peace (by simp [hm]) (quiet (by simp [hm])) spots

namespace Campaign

theorem manned (h : Campaign s p m t) (hs : ∀ x ∈ s.spots, x.Manned ids) (hp : p.id ∈ ids) :
    ∀ x ∈ t.spots, x.Manned ids := by
  intro z hz
  cases h with
  | peace hplace raided spots => exact hs z (spots ▸ hz)
  | landing i x hplace raided hi mine spots =>
    rw [spots] at hz
    rcases List.mem_or_eq_of_mem_set hz with hz | rfl
    · exact hs z hz
    · exact (hs x (List.mem_of_getElem? hi)).reinforced hp
  | raid i x u hplace raided hi theirs spots =>
    rw [spots] at hz
    rcases List.mem_or_eq_of_mem_set hz with hz | rfl
    · exact hs z hz
    · exact (hs x (List.mem_of_getElem? hi)).attacked theirs

theorem garrison (h : Campaign s p m t) (hs : ∀ x ∈ s.spots, x.Manned ids) (name : String) :
    t.garrison name = s.garrison name +
      (if m.kind = .placeArmy ∧ name = p.id then 1 else 0) - (s.raided m).count name := by
  cases h with
  | peace hplace raided spots =>
    rw [raided, if_neg fun hm => hplace hm.1, State.garrison, spots]
    simp [State.garrison]
  | landing i x hplace raided hi mine spots =>
    have hshare := (hs x (List.mem_of_getElem? hi)).share_reinforced mine name
    rw [State.garrison_set hi spots, hshare, raided]
    simp only [hplace, true_and, List.count_nil, Nat.cast_zero]
    ring
  | raid i x u hplace raided hi theirs spots =>
    have hshare := (hs x (List.mem_of_getElem? hi)).share_attacked theirs name
    have hcount : (([u].count name : Nat) : Int) = if name = u then 1 else 0 := by
      rw [List.count_singleton, Nat.cast_ite, Nat.cast_one, Nat.cast_zero]
      exact if_congr (beq_iff_eq.trans eq_comm) rfl rfl
    have hnone : ¬(m.kind = .placeArmy ∧ name = p.id) := fun hm => hplace hm.1
    rw [State.garrison_set hi spots, hshare, raided, hcount, if_neg hnone]
    ring

end Campaign

theorem Holding.armies (h : Holding s p m t q) :
    q.armies = p.armies + amountOf .army (s.grants m t) - amountOf .army (s.pays m) -
      if m.kind = .placeArmy then 1 else 0 := by
  have quiet (hgrants : s.grants m t = []) (hpays : s.pays m = []) (hm : m.kind ≠ .placeArmy)
      (harmies : q.armies = p.armies) : q.armies = p.armies + amountOf .army (s.grants m t) -
        amountOf .army (s.pays m) - if m.kind = .placeArmy then 1 else 0 := by
    rw [hgrants, hpays, if_neg hm, harmies]
    simp [amountOf]
  cases h with
  | trading seat turn hm opening funded holds =>
    have huse : m.kind.use .army = if m.kind = .placeArmy then 1 else 0 := by
      cases m.kind <;> rfl
    exact huse ▸ holds .army
  | owing c seat turn hm hc grants pays counters armies =>
    exact quiet grants pays (by simp [hm]) armies
  | passing seat turn hm grants pays counters armies =>
    exact quiet grants pays (by rcases hm with hm | hm <;> simp [hm]) armies

/-- A state whose armies a ledger and a list of raids account for. -/
structure Mustered (s : State String Int) (es : Ledger) (lost : List String) : Prop where
  charted : s.Charted
  manned : ∀ x ∈ s.spots, x.Manned (s.players.map (·.id))
  armies : ∀ p ∈ s.players, p.armies + s.garrison p.id =
    amountOf .army ((es.ofPlayer p.id).flatMap (·.granted)) -
      amountOf .army ((es.ofPlayer p.id).flatMap (·.paid)) - lost.count p.id

namespace Mustered

theorem play (h : Mustered s es lost) (hs : s.Seated) (hp : s.MayMove m p)
    (hcourse : Course s p m t q) :
    Mustered t (es ++ [s.entry m t]) (lost ++ s.raided m) := by
  have hmem := hs.mem hp.current
  have hcampaign := hcourse.turf.campaign h.charted
  have hids : t.players.map (·.id) = s.players.map (·.id) := by
    rw [hcourse.players, State.ids_withPlayer]
  have hplayer := hp.entry_player t
  refine ⟨h.charted.congr (hcourse.turf.places h.charted), ?_, fun u hu => ?_⟩
  · rw [hids]
    exact hcampaign.manned h.manned (List.mem_map_of_mem hmem)
  have hgarrison := hcampaign.garrison h.manned u.id
  rw [hcourse.players] at hu
  rw [hgarrison, List.count_append, Nat.cast_add]
  rcases State.mem_withPlayer hu with rfl | ⟨hu, hne⟩
  · have harmies := hcourse.holding.armies
    have hbefore := h.armies p hmem
    rw [hcourse.id, ← hplayer, Ledger.ofPlayer_append_self, List.flatMap_append,
      List.flatMap_append, amountOf_append, amountOf_append, List.flatMap_singleton,
      List.flatMap_singleton, hplayer]
    simp only [and_true]
    change u.armies = p.armies + amountOf .army (s.entry m t).granted -
      amountOf .army (s.entry m t).paid - _ at harmies
    linarith
  · have hother : (s.entry m t).player ≠ u.id := by
      rw [hplayer, ← hcourse.id]
      exact hne.symm
    have hbefore := h.armies u hu
    have hidle : ¬(m.kind = .placeArmy ∧ u.id = p.id) := fun hm => hne (hm.2.trans hcourse.id.symm)
    rw [Ledger.ofPlayer_append_of_ne hother, if_neg hidle]
    linarith

theorem congr (h : Mustered s es lost) (players : t.players = s.players)
    (spots : t.spots = s.spots) : Mustered t es lost := by
  obtain ⟨charted, manned, armies⟩ := h
  constructor <;> simpa only [State.Charted, State.garrison, players, spots]

theorem newGame {id : String} {seed : Int} {names : List String}
    (hsites : (rules.sites.map (·.id)).Nodup)
    (h : GuildCards.newGame rules shuffle id seed names = .ok s) : Mustered s [] [] := by
  obtain ⟨-, cards, -, rfl⟩ := State.newGame_eq_ok.mp h
  have hempty : ∀ x ∈ emptyMap (ι := String) (ν := Int) rules.grid rules.sites,
      x.holder = none ∧ x.armies = 0 := by
    intro x hx
    obtain ⟨site, -, rfl⟩ := List.mem_map.mp hx
    exact ⟨rfl, rfl⟩
  refine ⟨charted_emptyMap hsites, fun x hx => ?_, fun p hp => ?_⟩
  · obtain ⟨hholder, harmies⟩ := hempty x hx
    refine ⟨?_, harmies.ge, fun name hname => ?_⟩
    · rw [hholder, harmies]
      exact iff_of_false Bool.false_ne_true (lt_irrefl 0)
    · rw [hholder] at hname
      cases hname
  · rw [(State.deal_players p hp).armies, State.garrison]
    refine (zero_add _).trans (List.sum_eq_zero fun n hn => ?_)
    obtain ⟨x, hx, rfl⟩ := List.mem_map.mp hn
    rw [Spot.share, (hempty x hx).1, if_neg nofun]

theorem after (h : Mustered s es lost) (hs : s.Seated) (x : Step) :
    Mustered (s.after rules shuffle x) (es ++ s.entries rules shuffle x)
      (lost ++ (s.makes rules shuffle x).flatMap s.raided) := by
  cases x with
  | move m =>
    change Mustered (s.next rules shuffle m) _ _
    cases hr : s.play rules shuffle m with
    | error why => simpa [State.next, State.entries, State.makes_of_error hr, hr] using h
    | ok r =>
      obtain ⟨p, q, hp, hcourse⟩ := State.play_course hs hr
      rw [State.next_of_play hr, State.makes_of_play hr, List.flatMap_singleton, State.entries, hr]
      exact h.play hs hp hcourse
  | close =>
    rw [State.entries, State.makes, List.flatMap_nil, List.append_nil, List.append_nil]
    rcases State.close_eq_or rules shuffle s with heq | ⟨-, heq⟩ <;> rw [heq]
    · exact h
    · exact h.congr rfl rfl
  | stamp name time =>
    rw [State.entries, State.makes, List.flatMap_nil, List.append_nil, List.append_nil]
    exact h.congr rfl rfl

theorem run (h : Mustered s es lost) (hs : Reachable rules shuffle s) (steps : List Step) :
    Mustered (s.run rules shuffle steps) (es ++ s.ledger rules shuffle steps)
      (lost ++ s.raids rules shuffle steps) := by
  induction steps generalizing s es lost with
  | nil => rwa [State.ledger, State.raids, List.append_nil, List.append_nil]
  | cons x xs ih =>
    rw [State.ledger, State.raids, ← List.append_assoc, ← List.append_assoc]
    exact ih (h.after hs.seated x) (hs.step x)

end Mustered

/-- No army is lost or made up. A spot is held just when armies stand on it, by one of the players,
and never are there fewer than none; and the armies that a player has at hand and on the map are
those that effects granted to the player, less those paid for costs, less one for each accepted fight
for a spot that the player held. -/
theorem armies_accounted {id : String} {seed : Int} {names : List String}
    (hsites : (rules.sites.map (·.id)).Nodup)
    (h : newGame rules shuffle id seed names = .ok s₀) (steps : List Step) :
    let s := s₀.run rules shuffle steps
    let ledger := s₀.ledger rules shuffle steps
    (∀ x ∈ s.spots, (x.holder.isSome = true ↔ 0 < x.armies) ∧ 0 ≤ x.armies ∧
      ∀ name, x.holder = some name → ∃ p ∈ s.players, p.id = name) ∧
    ∀ p ∈ s.players,
      let own := ledger.ofPlayer p.id
      p.armies + s.garrison p.id =
        amountOf .army (own.flatMap (·.granted)) - amountOf .army (own.flatMap (·.paid)) -
          (s₀.raids rules shuffle steps).count p.id := by
  intro s ledger
  have hmustered : Mustered s ledger (s₀.raids rules shuffle steps) :=
    (Mustered.newGame hsites h).run (.deal h) steps
  refine ⟨fun x hx => ?_, hmustered.armies⟩
  obtain ⟨held, nonneg, seated⟩ := hmustered.manned x hx
  exact ⟨held, nonneg, fun name hname => List.mem_map.mp (seated name hname)⟩

/-- Of the two armies granted to the first player one is at hand and one is fought down. -/
theorem armies_accounted_sample :
    (skirmishRulebook.sites.map (·.id)).Nodup ∧
      ∃ s₀ : State String Int,
        newGame skirmishRulebook unshuffled "game" 7 ["Ada", "Ben"] = .ok s₀ ∧
          let s := s₀.run skirmishRulebook unshuffled skirmishSteps
          let ledger := s₀.ledger skirmishRulebook unshuffled skirmishSteps
          s₀.raids skirmishRulebook unshuffled skirmishSteps = ["player-1"] ∧
            s.spots.map (·.armies) = [0, 1] ∧
            ∀ p ∈ s.players,
              let own := ledger.ofPlayer p.id
              p.armies + s.garrison p.id =
                amountOf .army (own.flatMap (·.granted)) - amountOf .army (own.flatMap (·.paid)) -
                  (s₀.raids skirmishRulebook unshuffled skirmishSteps).count p.id := by
  obtain ⟨s₀, h⟩ : ∃ s₀ : State String Int,
      newGame skirmishRulebook unshuffled "game" 7 ["Ada", "Ben"] = .ok s₀ := ⟨_, rfl⟩
  have hsites : (skirmishRulebook.sites.map (·.id)).Nodup := by decide
  have hrun : s₀.raids skirmishRulebook unshuffled skirmishSteps = ["player-1"] ∧
      (s₀.run skirmishRulebook unshuffled skirmishSteps).spots.map (·.armies) = [0, 1] := by
    obtain rfl := Except.ok.inj h
    rw [emptyMap_skirmish]
    decide +kernel
  exact ⟨hsites, s₀, h, hrun.1, hrun.2, (armies_accounted hsites h skirmishSteps).2⟩

end GuildCards
