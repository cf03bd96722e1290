import Mathlib
import GuildCards.Proofs.Play.Course

/-!
The spots of the map. Where they are and which are neighbours is fixed for the whole game, and as
long as the sites of the rulebook have different ids, a spot is found by its id and a move changes
at most that one.
-/
namespace GuildCards
open Document Effect

variable {rules : Rulebook String} {shuffle : Shuffler String Int} {s t : State String Int}
  {p q : Player String Int} {m : Move} {x y : Spot String Int} {i : Nat}

namespace Spot

/-- Where a spot is and what it is, whoever holds it. -/
def place (x : Spot String Int) : Int × SpotKind × Int × Int × List Int :=
  (x.id, x.kind, x.row, x.column, x.adjacent)

theorem id_of_place (h : y.place = x.place) : y.id = x.id := congrArg Prod.fst h

end Spot

namespace State

theorem spots_withSpot (s : State String Int) (y : Spot String Int) :
    (s.withSpot y).spots = s.spots.map fun z => if z.id = y.id then y else z := by
  simp [withSpot]

def Charted (s : State String Int) : Prop := (s.spots.map (·.id)).Nodup

theorem Charted.congr (hs : s.Charted) (h : t.spots.map Spot.place = s.spots.map Spot.place) :
    t.Charted := by
  have hids := congrArg (List.map Prod.fst) h
  rw [List.map_map, List.map_map] at hids
  change (t.spots.map (Prod.fst ∘ Spot.place)).Nodup
  rw [hids]
  exact hs

theorem Charted.withSpot (hs : s.Charted) (hi : s.spots[i]? = some x) (hid : y.id = x.id) :
    (s.withSpot y).spots = s.spots.set i y := by
  rw [spots_withSpot]
  exact map_ite_eq_set hs hi hid

theorem Charted.exists_set {v : Value} (hs : s.Charted) (hx : s.spot? v = some x)
    (hid : y.id = x.id) : ∃ i, s.spots[i]? = some x ∧ (s.withSpot y).spots = s.spots.set i y := by
  obtain ⟨i, hi⟩ := List.mem_iff_getElem?.mp (List.mem_of_find?_eq_some hx)
  exact ⟨i, hi, hs.withSpot hi hid⟩

end State

theorem Turf.changes (h : Turf s p m t q) (hs : s.Charted) :
    t.spots = s.spots ∨ ∃ i x y, s.spots[i]? = some x ∧ y.place = x.place ∧
      t.spots = s.spots.set i y := by
  have put {x y : Spot String Int} (hx : s.spot? m.spot = some x)
      (spots : t.spots = (s.withSpot y).spots) (hy : y.place = x.place) :
      ∃ i x y, s.spots[i]? = some x ∧ y.place = x.place ∧ t.spots = s.spots.set i y := by
    obtain ⟨i, hi, hset⟩ := hs.exists_set hx (Spot.id_of_place hy)
    exact ⟨i, x, y, hi, hy, spots.trans hset⟩
  cases h with
  | quiet hplace hfight spots outposts => exact .inl spots
  | placing x hm hx may spots outposts => exact .inr (put hx spots rfl)
  | fighting x hm hx may spots outposts => exact .inr (put hx spots rfl)
  | building x hm hx may spots outposts => exact .inl spots

theorem Turf.places (h : Turf s p m t q) (hs : s.Charted) :
    t.spots.map Spot.place = s.spots.map Spot.place := by
  rcases h.changes hs with heq | ⟨i, x, y, hi, hplace, heq⟩
  · rw [heq]
  · obtain ⟨hlt, rfl⟩ := List.getElem?_eq_some_iff.mp hi
    have hlen : i < (s.spots.map Spot.place).length := by rwa [List.length_map]
    rw [heq, List.map_set, hplace, ← List.getElem_map Spot.place (h := hlen)]
    exact List.set_getElem_self hlen

theorem charted_emptyMap (hsites : (rules.sites.map (·.id)).Nodup) :
    ((emptyMap (ι := String) (ν := Int) rules.grid rules.sites).map (·.id)).Nodup := by
  have hids : (emptyMap (ι := String) (ν := Int) rules.grid rules.sites).map (·.id) =
      (rules.sites.mergeSort fun a b => a.id ≤ b.id).map (·.id) := by
    rw [emptyMap, List.map_map]
    rfl
  rw [hids]
  exact ((List.mergeSort_perm ..).map _).nodup_iff.mpr hsites

theorem Reachable.charted (hsites : (rules.sites.map (·.id)).Nodup)
    (h : Reachable rules shuffle s) : s.Charted := by
  induction h with
  | deal h =>
    obtain ⟨-, cards, -, rfl⟩ := State.newGame_eq_ok.mp h
    exact charted_emptyMap hsites
  | @step s h x ih =>
    apply State.after_induction (P := State.Charted) ih
    · intro m r hr
      obtain ⟨p, q, -, hcourse⟩ := State.play_course h.seated hr
      exact ih.congr (hcourse.turf.places ih)
    · exact fun _ => ih
    · exact fun _ => ih

def skirmishText : EffectText :=
  (EffectText.of "Gain +2 armies and +1 fight. Pay 1 army -> +1 VP").toOption.get
    (by decide +kernel)

/-- Texts that tell the tiers apart, of which the first grants what a skirmish takes. -/
def skirmishTiers : Tiered EffectText where
  first := skirmishText
  middle := (EffectText.of "+3 armies and +2 fights").toOption.get (by decide +kernel)
  last := (EffectText.of "+4 armies and +1 outpost").toOption.get (by decide +kernel)

def skirmishRulebook : Rulebook String :=
  { sampleRulebook with
    cards := sampleRulebook.cards.map fun c =>
      { c with power := skirmishTiers, bonus := skirmishText }
    sites := [⟨2, .starting, 0, 1⟩, ⟨1, .starting, 0, 0⟩]
    grid := ⟨2, 1⟩ }

theorem emptyMap_skirmish :
    emptyMap (ι := String) (ν := Int) skirmishRulebook.grid skirmishRulebook.sites =
      [{ id := 1, kind := .starting, row := 0, column := 0, adjacent := [2], armies := 0 },
       { id := 2, kind := .starting, row := 0, column := 1, adjacent := [1], armies := 0 }] := by
  have hsort : skirmishRulebook.sites.mergeSort (fun a b => a.id ≤ b.id) =
      [⟨1, .starting, 0, 0⟩, ⟨2, .starting, 0, 1⟩] := by
    simp [skirmishRulebook, List.mergeSort, List.MergeSort.Internal.splitInTwo]
  rw [emptyMap, hsort]
  decide

/-- One player occupies a spot, the other the one beside it, and drives the first player out. -/
def skirmishSteps : List Step :=
  [.move (.plain .endTurn "player-1"), .move (.onCard .expand "player-1" "royal-blue"),
   .move (.onSpot .placeArmy "player-1" (1 : Int)), .move (.plain .endTurn "player-1"),
   .move (.onCard .expand "player-2" "royal-purple"),
   .move (.onSpot .placeArmy "player-2" (2 : Int)), .move (.answer "player-2" true),
   .move (.onSpot .fight "player-2" (1 : Int))]

end GuildCards
