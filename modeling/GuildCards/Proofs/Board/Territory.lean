import Mathlib
import GuildCards.Proofs.Board.Garrisons
import GuildCards.Proofs.Play.Legality

/-!
The territory of a player. An army lands on a starting spot or beside a spot that its player holds, and
never where another player is. So as long as nobody fights, neighbours that one player holds lead from
each spot of the player to a starting spot of the player.
-/
namespace GuildCards
open Document Relation

variable {rules : Rulebook String} {shuffle : Shuffler String Int} {s t s₀ : State String Int}
  {p q : Player String Int} {m : Move} {x y z : Spot String Int} {name u : String} {v : Value}
  {f : Spot String Int → Spot String Int}

namespace State

structure Occupies (s : State String Int) (name : String) (x : Spot String Int) : Prop where
  mem : x ∈ s.spots
  holder : x.holder = some name

/-- Two spots of one player, the second a neighbour of the first. -/
structure Borders (s : State String Int) (name : String) (x y : Spot String Int) : Prop where
  near : s.Occupies name x
  far : s.Occupies name y
  adjacent : y.id ∈ x.adjacent

/-- Over neighbours that a player holds, one comes from a spot to a starting spot of the player. -/
def Rooted (s : State String Int) (name : String) (x : Spot String Int) : Prop :=
  ∃ y, s.Occupies name y ∧ y.kind = .starting ∧ ReflTransGen (s.Borders name) x y

/-- Every spot that a player holds is connected to where the player began. -/
def Connected (s : State String Int) : Prop := ∀ name x, s.Occupies name x → s.Rooted name x

theorem rooted_of_starting (h : s.Occupies name x) (hkind : x.kind = .starting) : s.Rooted name x :=
  ⟨x, h, hkind, .refl⟩

theorem Rooted.extend (hy : s.Rooted name y) (h : s.Borders name x y) : s.Rooted name x := by
  obtain ⟨z, hz, hkind, hpath⟩ := hy
  exact ⟨z, hz, hkind, .head h hpath⟩

/-- What becomes of the spots of a map when none is moved and nobody is driven off one. -/
structure Spares (f : Spot String Int → Spot String Int) (s t : State String Int) : Prop where
  place : ∀ x ∈ s.spots, (f x).place = x.place
  occupied : ∀ {name x}, s.Occupies name x → t.Occupies name (f x)

theorem Spares.borders (h : Spares f s t) (hxy : s.Borders name x y) :
    t.Borders name (f x) (f y) := by
  have hx : (f x).adjacent = x.adjacent :=
    congrArg (·.2.2.2.2) (h.place x hxy.near.mem)
  have hy : (f y).id = y.id := Spot.id_of_place (h.place y hxy.far.mem)
  refine ⟨h.occupied hxy.near, h.occupied hxy.far, ?_⟩
  rw [hx, hy]
  exact hxy.adjacent

theorem Rooted.spared (h : s.Rooted name x) (hf : Spares f s t) : t.Rooted name (f x) := by
  obtain ⟨y, hy, hkind, hpath⟩ := h
  have hplace : (f y).kind = y.kind := congrArg (·.2.1) (hf.place y hy.mem)
  exact ⟨f y, hf.occupied hy, hplace.trans hkind, hpath.lift f fun _ _ => hf.borders⟩

theorem Connected.congr (h : s.Connected) (hspots : t.spots = s.spots) : t.Connected := by
  intro name x hx
  have hsame : Spares (fun z => z) s t :=
    ⟨fun _ _ => rfl, fun hy => ⟨hspots.symm ▸ hy.mem, hy.holder⟩⟩
  exact (h name x ⟨hspots ▸ hx.mem, hx.holder⟩).spared hsame

theorem Charted.eq_of_id (hs : s.Charted) (hx : x ∈ s.spots) (hy : y ∈ s.spots)
    (h : x.id = y.id) : x = y := List.inj_on_of_nodup_map hs hx hy h

/-- Nobody else is where an army may land, and the spot is a starting spot or beside one of the
player's. -/
theorem open_of_canPlaceOn (h : s.canPlaceOn (.text name) x = true) :
    (∀ u, x.holder = some u → u = name) ∧
      (x.kind = .starting ∨ ∃ y, s.Occupies name y ∧ y.id ∈ x.adjacent) := by
  obtain ⟨hfree, hopen⟩ := Bool.and_eq_true_iff.mp h
  constructor
  · intro u hu
    by_contra hne
    rw [Spot.isHeldAgainst_text.mpr ⟨u, hu, hne⟩] at hfree
    cases hfree
  · refine (Bool.or_eq_true_iff.mp hopen).imp of_decide_eq_true fun hnext => ?_
    obtain ⟨i, hi, hheld⟩ := List.any_eq_true.mp hnext
    obtain ⟨y, hy, hholder⟩ := (Option.any_eq_true _ _).mp hheld
    obtain ⟨hmem, rfl⟩ := spot?_eq_some hy
    exact ⟨y, ⟨hmem, by simpa using hholder⟩, hi⟩

theorem Connected.landed (h : s.Connected) (hs : s.Charted) (hx : s.spot? v = some x)
    (may : s.canPlaceOn (.text name) x = true)
    (hspots : t.spots = (s.withSpot (x.reinforced name)).spots) : t.Connected := by
  obtain ⟨hmine, hopen⟩ := open_of_canPlaceOn may
  have hmem : x ∈ s.spots := List.mem_of_find?_eq_some hx
  let f (z : Spot String Int) := if z.id = x.id then x.reinforced name else z
  have hf : t.spots = s.spots.map f := hspots.trans (spots_withSpot s _)
  have hlanded : f x = x.reinforced name := if_pos rfl
  -- a spot that is not the one where the army lands is the same in both states
  have hcases {z : Spot String Int} (hz : z ∈ s.spots) : z = x ∨ f z = z := by
    by_cases hid : z.id = x.id
    · exact .inl (hs.eq_of_id hz hmem hid)
    · exact .inr (if_neg hid)
  have hspares : Spares f s t := by
    refine ⟨fun z hz => ?_, fun {u z} hz => ⟨hf ▸ List.mem_map_of_mem hz.mem, ?_⟩⟩
    · rcases hcases hz with rfl | hsame
      · rw [hlanded]
        rfl
      · rw [hsame]
    · rcases hcases hz.mem with rfl | hsame
      · rw [hlanded, hmine u hz.holder]
        rfl
      · rw [hsame, hz.holder]
  have hoccupies : t.Occupies name (f x) := ⟨hf ▸ List.mem_map_of_mem hmem, by rw [hlanded]; rfl⟩
  have hrooted : t.Rooted name (f x) := by
    rcases hopen with hkind | ⟨y, hy, hadjacent⟩
    · exact rooted_of_starting hoccupies (by rw [hlanded]; exact hkind)
    · have hid : (f y).id = y.id := Spot.id_of_place (hspares.place y hy.mem)
      refine ((h name y hy).spared hspares).extend ⟨hoccupies, hspares.occupied hy, ?_⟩
      rw [hid, hlanded]
      exact hadjacent
  intro u w hw
  obtain ⟨z, hz, rfl⟩ := List.mem_map.mp (hf ▸ hw.mem)
  rcases hcases hz with rfl | hsame
  · have hu : u = name := by
      have hholder := hw.holder
      rw [hlanded] at hholder
      exact (Option.some.inj hholder).symm
    exact hu ▸ hrooted
  · refine (h u z ⟨hz, ?_⟩).spared hspares
    rw [← hsame, hw.holder]

end State

theorem Turf.connected (h : Turf s p m t q) (hs : s.Charted) (hconnected : s.Connected)
    (hm : m.kind ≠ .fight) : t.Connected := by
  cases h with
  | quiet hplace hfight spots outposts => exact hconnected.congr spots
  | placing x hm hx may spots outposts => exact hconnected.landed hs hx may spots
  | fighting x hfight hx may spots outposts => exact absurd hfight hm
  | building x hm hx may spots outposts => exact hconnected.congr spots

theorem connected_newGame {id : String} {seed : Int} {names : List String}
    (h : newGame rules shuffle id seed names = .ok s) : s.Connected := by
  obtain ⟨-, cards, -, rfl⟩ := State.newGame_eq_ok.mp h
  rintro name x ⟨hmem, hholder⟩
  obtain ⟨site, -, rfl⟩ := List.mem_map.mp hmem
  cases hholder

/-- Territory grows connected. As long as no fight is accepted, whoever else moves and whatever else is
played, there is a path from every spot that a player holds to a starting spot that the player holds:
each spot on it is listed as a neighbour by the one before, and the player holds them all. -/
theorem territory_connected {id : String} {seed : Int} {names : List String} {steps : List Step}
    (hsites : (rules.sites.map (·.id)).Nodup)
    (h : newGame rules shuffle id seed names = .ok s₀)
    (hpeace : ∀ m ∈ s₀.made rules shuffle steps, m.kind ≠ .fight) :
    let s := s₀.run rules shuffle steps
    ∀ x ∈ s.spots, ∀ name, x.holder = some name →
      ∃ y ∈ s.spots, y.holder = some name ∧ y.kind = .starting ∧
        ReflTransGen (s.Borders name) x y := by
  intro s x hx name hholder
  have hconnected : s.Connected := by
    refine Reachable.made_induction (.deal h)
      (P := fun done t => (∀ m ∈ done, m.kind ≠ .fight) → t.Connected)
      (fun _ => connected_newGame h) ?_ (fun ht hdone => (ht hdone).congr rfl)
      (fun _ ht hdone => (ht hdone).congr rfl) steps hpeace
    intro done t m r ht hconnected hr hdone
    rw [List.forall_mem_append, List.forall_mem_singleton] at hdone
    obtain ⟨p, q, -, hcourse⟩ := State.play_course ht.seated hr
    exact hcourse.turf.connected (ht.charted hsites) (hconnected hdone.1) hdone.2
  obtain ⟨y, hy, hkind, hpath⟩ := hconnected name x ⟨hx, hholder⟩
  exact ⟨y, hy.mem, hy.holder, hkind, hpath⟩

def marchRulebook : Rulebook String :=
  { skirmishRulebook with
    sites := [⟨1, .starting, 0, 0⟩, ⟨2, .normal, 0, 1⟩, ⟨3, .normal, 0, 2⟩, ⟨4, .starting, 0, 3⟩]
    grid := ⟨4, 1⟩ }

/-- One player marches from an end of the row and reinforces the middle; the other comes to the other
end and is refused beside it. -/
def marchSteps : List Step :=
  [.move (.plain .endTurn "player-1"), .move (.onCard .expand "player-1" "royal-blue"),
   .move (.onSpot .placeArmy "player-1" (1 : Int)), .move (.onSpot .placeArmy "player-1" (2 : Int)),
   .move (.onSpot .placeArmy "player-1" (3 : Int)), .move (.onSpot .placeArmy "player-1" (2 : Int)),
   .move (.plain .endTurn "player-1"), .move (.onCard .expand "player-2" "royal-purple"),
   .move (.onSpot .placeArmy "player-2" (3 : Int)), .move (.onSpot .placeArmy "player-2" (4 : Int))]

theorem emptyMap_march :
    emptyMap (ι := String) (ν := Int) marchRulebook.grid marchRulebook.sites =
      [{ id := 1, kind := .starting, row := 0, column := 0, adjacent := [2], armies := 0 },
       { id := 2, kind := .normal, row := 0, column := 1, adjacent := [1, 3], armies := 0 },
       { id := 3, kind := .normal, row := 0, column := 2, adjacent := [2, 4], armies := 0 },
       { id := 4, kind := .starting, row := 0, column := 3, adjacent := [3], armies := 0 }] := by
  rw [emptyMap, List.mergeSort_of_pairwise (by decide)]
  decide

/-- The army in the middle of the row is connected over the spot beside it to the end. -/
theorem territory_connected_sample :
    (marchRulebook.sites.map (·.id)).Nodup ∧
      ∃ s₀ : State String Int,
        newGame marchRulebook unshuffled "game" 7 ["Ada", "Ben"] = .ok s₀ ∧
          (∀ m ∈ s₀.made marchRulebook unshuffled marchSteps, m.kind ≠ .fight) ∧
          let s := s₀.run marchRulebook unshuffled marchSteps
          s.spots.map (fun x => (x.holder, x.armies)) =
              [(some "player-1", 1), (some "player-1", 2), (some "player-1", 1),
               (some "player-2", 1)] ∧
            ∀ x ∈ s.spots, ∀ name, x.holder = some name →
              ∃ y ∈ s.spots, y.holder = some name ∧ y.kind = .starting ∧
                ReflTransGen (s.Borders name) x y := by
  obtain ⟨s₀, h⟩ : ∃ s₀ : State String Int,
      newGame marchRulebook unshuffled "game" 7 ["Ada", "Ben"] = .ok s₀ := ⟨_, rfl⟩
  have hsites : (marchRulebook.sites.map (·.id)).Nodup := by decide
  have hrun : ((s₀.made marchRulebook unshuffled marchSteps).all fun m => m.kind ≠ .fight) = true ∧
      (s₀.run marchRulebook unshuffled marchSteps).spots.map (fun x => (x.holder, x.armies)) =
        [(some "player-1", 1), (some "player-1", 2), (some "player-1", 1),
         (some "player-2", 1)] := by
    obtain rfl := Except.ok.inj h
    rw [emptyMap_march]
    decide +kernel
  have hpeace : ∀ m ∈ s₀.made marchRulebook unshuffled marchSteps, m.kind ≠ .fight := by
    simpa using hrun.1
  exact ⟨hsites, s₀, h, hpeace, hrun.2, territory_connected hsites h hpeace⟩

end GuildCards
