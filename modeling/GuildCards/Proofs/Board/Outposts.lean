import Mathlib
import GuildCards.Proofs.Board.Spots
import GuildCards.Proofs.Cards.Conservation
import GuildCards.Proofs.Play.History
import GuildCards.Proofs.Play.Legality

/-!
Outposts. An outpost stays with the player who builds it, whoever holds the spot afterwards, and no
spot has two. So a list of outposts only grows, and there are at most as many outposts as spots for
one. Nothing here needs the sites of the rulebook to have different ids: the spot that an id names
is the first that has it, and it is of the same kind for the whole game.
-/
namespace GuildCards
open Document

variable {rules : Rulebook String} {shuffle : Shuffler String Int} {s t : State String Int}
  {p q : Player String Int} {m : Move} {x y : Spot String Int}

namespace State

def outposts (s : State String Int) : List Int := s.players.flatMap (·.outposts)

def kindAt? (s : State String Int) (i : Int) : Option SpotKind := (s.spot? (.int i)).map (·.kind)

theorem spot?_id {v : Value} (h : s.spot? v = some x) : s.spot? (.int x.id) = some x := by
  obtain ⟨hx, before, after, hsplit, hbefore⟩ := List.find?_eq_some_iff_append.mp h
  refine List.find?_eq_some_iff_append.mpr ⟨by simp, before, after, hsplit, fun z hz => ?_⟩
  have hne : z.id ≠ x.id := by
    intro hid
    have hz' := hbefore z hz
    rw [hid, hx] at hz'
    cases hz'
  simpa using hne

theorem spot?_withSpot (s : State String Int) (y : Spot String Int) (v : Value) :
    (s.withSpot y).spot? v = (s.spot? v).map fun z => if z.id = y.id then y else z := by
  have hids : ((fun z => Datum.is z.id v) ∘ fun z : Spot String Int => if z.id = y.id then y else z) =
      fun z => Datum.is z.id v := by
    funext z
    by_cases hz : z.id = y.id <;> simp [hz]
  rw [spot?, spots_withSpot, List.find?_map, hids, spot?]

theorem kindAt?_withSpot {v : Value} (hx : s.spot? v = some x) (hid : y.id = x.id)
    (hkind : y.kind = x.kind) (i : Int) : (s.withSpot y).kindAt? i = s.kindAt? i := by
  rw [kindAt?, kindAt?, spot?_withSpot, Option.map_map]
  cases hz : s.spot? (.int i) with
  | none => rfl
  | some z =>
    rw [Option.map_some, Option.map_some, Function.comp_apply]
    split_ifs with hsame
    · -- the spot named `i` has the id of `x`, so it is `x`
      have hzx : z = x := Option.some.inj ((spot?_id hz).symm.trans (hsame.trans hid ▸ spot?_id hx))
      rw [hkind, hzx]
    · rfl

theorem canBuildOn_iff {name : String} : s.canBuildOn (.text name) x = true ↔
    x.kind = .outpost ∧ x.holder = some name ∧ x.id ∉ s.outposts := by
  simp only [canBuildOn, outposts, Spot.isHeldBy_text, Bool.and_eq_true, decide_eq_true_eq,
    Bool.not_eq_true', List.any_eq_false, List.any_eq_true, Datum.same_int, List.mem_flatMap,
    not_exists, not_and, and_assoc]
  refine and_congr_right fun _ => and_congr_right fun _ => forall₂_congr fun p _ => ?_
  exact ⟨fun h hx => h _ hx rfl, fun h i hi heq => h (heq ▸ hi)⟩

theorem outposts_withPlayer {more : List Int} (hs : s.Seated) (hp : p ∈ s.players)
    (hid : q.id = p.id) (hq : q.outposts = p.outposts ++ more)
    (hplayers : t.players = (s.withPlayer q).players) :
    t.outposts.Perm (s.outposts ++ more) := by
  obtain ⟨before, after, hsplit, hwith⟩ := hs.split hp
  simp only [outposts, hplayers, hwith q hid, hsplit, hq, List.flatMap_append, List.flatMap_cons,
    List.append_assoc]
  exact ((List.perm_append_comm).append_left _).append_left _

/-- Every outpost is on a spot of its own, and that is a spot for one. -/
structure Founded (s : State String Int) : Prop where
  distinct : s.outposts.Nodup
  kind : ∀ i ∈ s.outposts, s.kindAt? i = some .outpost

theorem Founded.length_le (h : s.Founded) :
    s.outposts.length ≤ s.spots.countP (·.kind = .outpost) := by
  have hsub : s.outposts ⊆ (s.spots.filter (·.kind = .outpost)).map (·.id) := by
    intro i hi
    obtain ⟨x, hx, hkind⟩ := Option.map_eq_some_iff.mp (h.kind i hi)
    obtain ⟨hmem, rfl⟩ := spot?_eq_some hx
    exact List.mem_map_of_mem (List.mem_filter.mpr ⟨hmem, by simpa using hkind⟩)
  rw [List.countP_eq_length_filter, ← List.length_map (f := Spot.id)]
  exact (h.distinct.subperm hsub).length_le

end State

namespace Turf

theorem kindAt? (h : Turf s p m t q) (i : Int) : t.kindAt? i = s.kindAt? i := by
  have found {y : Spot String Int} (spots : t.spots = (s.withSpot y).spots) :
      t.kindAt? i = (s.withSpot y).kindAt? i := by
    rw [State.kindAt?, State.spot?, spots]
    rfl
  cases h with
  | quiet hplace hfight spots outposts => rw [State.kindAt?, State.spot?, spots]; rfl
  | placing x hm hx may spots outposts =>
    rw [found spots]
    refine State.kindAt?_withSpot hx ?_ ?_ i <;> rfl
  | fighting x hm hx may spots outposts =>
    rw [found spots]
    refine State.kindAt?_withSpot hx ?_ ?_ i <;> rfl
  | building x hm hx may spots outposts => rw [State.kindAt?, State.spot?, spots]; rfl

/-- A move builds nothing, or one outpost on a spot for one that has none. -/
theorem builds (h : Turf s p m t q) :
    q.outposts = p.outposts ∨
      ∃ i, q.outposts = p.outposts ++ [i] ∧ s.kindAt? i = some .outpost ∧ i ∉ s.outposts := by
  cases h with
  | quiet hplace hfight spots outposts => exact .inl outposts
  | placing x hm hx may spots outposts => exact .inl outposts
  | fighting x hm hx may spots outposts => exact .inl outposts
  | building x hm hx may spots outposts =>
    obtain ⟨hkind, -, hfree⟩ := State.canBuildOn_iff.mp may
    refine .inr ⟨x.id, outposts, ?_, hfree⟩
    rw [State.kindAt?, State.spot?_id hx, Option.map_some, hkind]

theorem outposts_prefix (h : Turf s p m t q) : p.outposts <+: q.outposts := by
  rcases h.builds with heq | ⟨i, heq, -, -⟩
  · exact heq ▸ List.prefix_rfl
  · exact heq ▸ List.prefix_append ..

end Turf

theorem Course.founded (hs : s.Seated) (hp : p ∈ s.players) (h : Course s p m t q)
    (hf : s.Founded) : t.Founded := by
  have hkind : ∀ i, s.kindAt? i = some .outpost → t.kindAt? i = some .outpost :=
    fun i hi => (h.turf.kindAt? i).trans hi
  rcases h.turf.builds with heq | ⟨i, heq, hi, hfree⟩
  · have hperm : t.outposts.Perm (s.outposts ++ []) :=
      State.outposts_withPlayer hs hp h.id (heq.trans (List.append_nil _).symm) h.players
    rw [List.append_nil] at hperm
    exact ⟨hperm.nodup_iff.mpr hf.distinct, fun j hj => hkind j (hf.kind j (hperm.mem_iff.mp hj))⟩
  · have hperm : t.outposts.Perm (s.outposts ++ [i]) :=
      State.outposts_withPlayer hs hp h.id heq h.players
    constructor
    · rw [hperm.nodup_iff, (List.perm_append_singleton i _).nodup_iff, List.nodup_cons]
      exact ⟨hfree, hf.distinct⟩
    · intro j hj
      rcases List.mem_append.mp (hperm.mem_iff.mp hj) with hj | hj
      · exact hkind j (hf.kind j hj)
      · exact hkind j (List.mem_singleton.mp hj ▸ hi)

namespace Reachable

theorem founded (h : Reachable rules shuffle s) : s.Founded := by
  induction h with
  | @deal id seed names s h =>
    obtain ⟨-, cards, -, rfl⟩ := State.newGame_eq_ok.mp h
    have hnone : (GuildCards.deal (ν := Int) rules 1 cards names).1.flatMap (·.outposts) = [] :=
      List.flatMap_eq_nil_iff.mpr fun p hp => (State.deal_players p hp).outposts
    constructor <;> rw [State.outposts, hnone] <;> simp
  | @step s h x ih =>
    apply State.after_induction (P := State.Founded) ih
    · intro m r hr
      obtain ⟨p, q, hp, hcourse⟩ := State.play_course h.seated hr
      exact hcourse.founded h.seated (h.seated.mem hp.current) ih
    · exact fun _ => ⟨ih.distinct, ih.kind⟩
    · exact fun _ => ⟨ih.distinct, ih.kind⟩

theorem outposts_prefix (h : Reachable rules shuffle s) (steps : List Step) :
    List.Forall₂ (fun u v => v.id = u.id ∧ u.outposts <+: v.outposts) s.players
      (s.run rules shuffle steps).players := by
  apply h.made_induction (P := fun _ t => List.Forall₂
    (fun u v => v.id = u.id ∧ u.outposts <+: v.outposts) s.players t.players)
  · exact List.forall₂_same.mpr fun u _ => ⟨rfl, List.prefix_rfl⟩
  · intro _ t m r ht hgrown hr
    obtain ⟨p, q, hp, hcourse⟩ := State.play_course ht.seated hr
    have hstep : List.Forall₂ (fun u v => v.id = u.id ∧ u.outposts <+: v.outposts) t.players
        r.state.players := by
      rw [hcourse.players]
      exact State.forall₂_withPlayer ht.seated (ht.seated.mem hp.current) hcourse.id
        ⟨hcourse.id, hcourse.turf.outposts_prefix⟩ fun _ _ => ⟨rfl, List.prefix_rfl⟩
    exact forall₂_trans (fun _ _ _ h h' => ⟨h'.1.trans h.1, h.2.trans h'.2⟩) hgrown hstep
  · exact fun hgrown => hgrown
  · exact fun _ hgrown => hgrown

end Reachable

/-- Outposts are exclusive and permanent. Of all outposts no two are on one spot, each is on a spot
for outposts, and so there are no more of them than such spots; and whatever happens, the outposts of
a player stay and new ones come after them. -/
theorem outposts_exclusive (h : Reachable rules shuffle s) :
    (s.players.flatMap (·.outposts)).Nodup ∧
      (∀ p ∈ s.players, ∀ i ∈ p.outposts, ∃ x ∈ s.spots, x.id = i ∧ x.kind = .outpost) ∧
      (∀ steps, List.Forall₂ (fun u v => v.id = u.id ∧ u.outposts <+: v.outposts) s.players
        (s.run rules shuffle steps).players) ∧
      (s.players.flatMap (·.outposts)).length ≤ s.spots.countP (·.kind = .outpost) := by
  refine ⟨h.founded.distinct, fun p hp i hi => ?_, h.outposts_prefix, h.founded.length_le⟩
  obtain ⟨x, hx, hkind⟩ :=
    Option.map_eq_some_iff.mp (h.founded.kind i (List.mem_flatMap_of_mem hp hi))
  obtain ⟨hmem, hid⟩ := State.spot?_eq_some hx
  exact ⟨x, hmem, hid, hkind⟩

def frontierText : EffectText :=
  (EffectText.of "Gain +1 army and +1 fight and +1 outpost").toOption.get (by decide +kernel)

def frontierRulebook : Rulebook String :=
  { sampleRulebook with
    cards := sampleRulebook.cards.map fun c =>
      { c with power := { skirmishTiers with first := frontierText }, bonus := frontierText }
    sites := [⟨1, .starting, 0, 0⟩, ⟨2, .outpost, 0, 1⟩, ⟨3, .starting, 0, 2⟩]
    grid := ⟨3, 1⟩ }

theorem emptyMap_frontier :
    emptyMap (ι := String) (ν := Int) frontierRulebook.grid frontierRulebook.sites =
      [{ id := 1, kind := .starting, row := 0, column := 0, adjacent := [2], armies := 0 },
       { id := 2, kind := .outpost, row := 0, column := 1, adjacent := [1, 3], armies := 0 },
       { id := 3, kind := .starting, row := 0, column := 2, adjacent := [2], armies := 0 }] := by
  rw [emptyMap, List.mergeSort_of_pairwise (by decide)]
  decide

/-- One player builds an outpost; the other drives the player out and moves in. -/
def frontierSteps : List Step :=
  [.move (.plain .endTurn "player-1"), .move (.onCard .expand "player-1" "royal-blue"),
   .move (.onSpot .placeArmy "player-1" (1 : Int)), .move (.onSpot .placeArmy "player-1" (2 : Int)),
   .move (.onSpot .buildOutpost "player-1" (2 : Int)), .move (.plain .endTurn "player-1"),
   .move (.onCard .expand "player-2" "royal-purple"),
   .move (.onSpot .placeArmy "player-2" (3 : Int)), .move (.onSpot .fight "player-2" (2 : Int)),
   .move (.onSpot .placeArmy "player-2" (2 : Int))]

/-- The spot of an outpost has changed hands, and its new holder cannot build there again. -/
theorem outposts_exclusive_sample :
    ∃ s₀ : State String Int,
      newGame frontierRulebook unshuffled "game" 7 ["Ada", "Ben"] = .ok s₀ ∧
        let s := s₀.run frontierRulebook unshuffled frontierSteps
        s.players.map (·.outposts) = [[2], []] ∧
          s.spots.map (·.holder) = [some "player-1", some "player-2", some "player-2"] ∧
          (s.play frontierRulebook unshuffled
            (.onSpot .buildOutpost "player-2" (2 : Int))).isOk = false ∧
          (s.players.flatMap (·.outposts)).length ≤ s.spots.countP (·.kind = .outpost) := by
  obtain ⟨s₀, h⟩ : ∃ s₀ : State String Int,
      newGame frontierRulebook unshuffled "game" 7 ["Ada", "Ben"] = .ok s₀ := ⟨_, rfl⟩
  let s := s₀.run frontierRulebook unshuffled frontierSteps
  have hrun : s.players.map (·.outposts) = [[2], []] ∧
      s.spots.map (·.holder) = [some "player-1", some "player-2", some "player-2"] ∧
      (s.play frontierRulebook unshuffled
        (.onSpot .buildOutpost "player-2" (2 : Int))).isOk = false := by
    subst s
    obtain rfl := Except.ok.inj h
    rw [emptyMap_frontier]
    decide +kernel
  obtain ⟨-, -, -, hcount⟩ := outposts_exclusive (Reachable.run (.deal h) frontierSteps)
  exact ⟨s₀, h, hrun.1, hrun.2.1, hrun.2.2, hcount⟩

end GuildCards
