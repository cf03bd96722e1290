import Mathlib
import GuildCards.Proofs.Play.Run
import GuildCards.Rulebook.Check

/-!
What a check decides. The problems that it lists are read off the rulebook part by part, and there are
none just when the rulebook is as a game needs it: its constants in order, its catalog empty or
complete, its map empty or exactly the grid. They are listed only if there is room for the ids that the
map should have, if the map has columns, and if no message shows a number of too many digits.
-/
namespace GuildCards
open Document

variable {r : Rulebook String} {room : Nat} {f : Fault} {ps : List Problem} {report : Report}

theorem onlyIf_eq_nil {α : Type} {p : Prop} [Decidable p] {a : α} : onlyIf p a = [] ↔ ¬p := by
  unfold onlyIf
  split_ifs with h <;> simp [h]

theorem mem_onlyIf {α : Type} {p : Prop} [Decidable p] {a b : α} : b ∈ onlyIf p a ↔ p ∧ b = a := by
  unfold onlyIf
  split_ifs with h <;> simp [h]

namespace Rulebook

structure FullCatalog (r : Rulebook String) : Prop where
  named : ∀ c ∈ r.cards, c.id ≠ ""
  distinct : (r.cards.map (·.id)).Nodup
  paired : ∀ g c, (r.cards.filter fun card => card.guild = g ∧ card.color = c).length = 2
  supply : r.maxPlayers * (r.handSize + r.deckSize) ≤ r.cards.length

structure FullMap (r : Rulebook String) : Prop where
  distinct : (r.sites.map (·.id)).Nodup
  ids : ∀ n, n ∈ r.sites.map (·.id) ↔ 1 ≤ n ∧ n ≤ r.grid.columns * r.grid.rows
  placed : ∀ s ∈ r.sites,
    s.row = (s.id - 1).fdiv r.grid.columns ∧ s.column = (s.id - 1).fmod r.grid.columns
  start : ∃ s ∈ r.sites, s.kind = .starting

def Numbered (r : Rulebook String) : Prop :=
  (r.sites.map (·.id)).Nodup ∧
    ∀ n, n ∈ r.sites.map (·.id) ↔ 1 ≤ n ∧ n ≤ r.grid.columns * r.grid.rows

def TooLong (n : Int) : Prop := 10 ^ Number.digitLimit ≤ n.natAbs

/-- The map has a problem whose message shows a number that is too long. -/
inductive MapTooLong (r : Rulebook String) : Prop where
  | ids (unlike : ¬r.Numbered) (long : TooLong (r.grid.columns * r.grid.rows))
  | site (s : Site) (mem : s ∈ r.sites)
    (apart : ¬(s.row = (s.id - 1).fdiv r.grid.columns ∧ s.column = (s.id - 1).fmod r.grid.columns))
    (n : Int) (shown : n ∈ [s.id, s.row, s.column, (s.id - 1).fdiv r.grid.columns,
      (s.id - 1).fmod r.grid.columns]) (long : TooLong n)

/-- There are too few cards for a full table, and how many it needs, or who sits there, is too long. -/
structure SupplyTooLong (r : Rulebook String) : Prop where
  cards : r.cards ≠ []
  few : r.cards.length < r.maxPlayers * (r.handSize + r.deckSize)
  long : TooLong r.maxPlayers ∨ TooLong (r.maxPlayers * (r.handSize + r.deckSize))

theorem tooLong_iff {n : Int} : TooLong n ↔ (Value.int n).isWritable = false := by
  rw [isWritable_iff, decide_eq_false_iff_not, not_lt]
  rfl

/-- What keeps a check from looking at the map: it is too large to be counted or for the room that there
is, it has no columns, or the message of a problem cannot be written. -/
inductive MapObstacle (r : Rulebook String) (room : Nat) : Fault → Prop where
  | uncountable (sites : r.sites ≠ []) (size : 2 ^ 63 ≤ r.grid.columns * r.grid.rows) :
    MapObstacle r room .tooManyItems
  | noRoom (sites : r.sites ≠ []) (size : r.grid.columns * r.grid.rows < 2 ^ 63)
    (large : room < r.grid.columns * r.grid.rows) : MapObstacle r room .outOfMemory
  | noColumns (sites : r.sites ≠ []) (columns : r.grid.columns = 0) :
    MapObstacle r room .divisionByZero
  | tooLong (sites : r.sites ≠ []) (size : r.grid.columns * r.grid.rows < 2 ^ 63)
    (fits : r.grid.columns * r.grid.rows ≤ room) (columns : r.grid.columns ≠ 0)
    (long : r.MapTooLong) : MapObstacle r room .tooLongToWrite

/-- What keeps a check from its report: an obstacle on the map or, after the map, the message that there
are too few cards. -/
inductive Obstacle (r : Rulebook String) (room : Nat) : Fault → Prop where
  | map {f : Fault} (h : r.MapObstacle room f) : Obstacle r room f
  | supply (h : ∀ f, ¬r.MapObstacle room f) (long : r.SupplyTooLong) :
    Obstacle r room .tooLongToWrite

/-- A rulebook that a game can be played by. A catalog or a map may be missing, but not in part. -/
structure Sound (r : Rulebook String) : Prop where
  id : r.id ≠ ""
  players : 1 ≤ r.minPlayers ∧ r.minPlayers ≤ r.maxPlayers
  hand : 1 ≤ r.handSize
  catalog : r.cards = [] ∨ r.FullCatalog
  map : r.sites = [] ∨ r.FullMap

section Cards

theorem constantProblems_eq_nil : r.constantProblems = [] ↔
    r.id ≠ "" ∧ (1 ≤ r.minPlayers ∧ r.minPlayers ≤ r.maxPlayers) ∧ 1 ≤ r.handSize := by
  simp only [constantProblems, List.append_eq_nil_iff, onlyIf_eq_nil, not_lt, and_assoc, ne_eq]

theorem mem_eraseDupsBy_same {ids : List String} {id : String} :
    id ∈ ids.eraseDupsBy Datum.same ↔ id ∈ ids := by
  have hsame : (Datum.same : String → String → Bool) = (· == ·) := by
    funext s t
    rw [Datum.same_text, Bool.beq_eq_decide_eq]
  rw [hsame]
  exact List.mem_eraseDups

theorem countP_same (ids : List String) (id : String) :
    ids.countP (Datum.same · id) = ids.count id := by
  rw [List.count]
  refine List.countP_congr fun s _ => ?_
  rw [Datum.same_text, decide_eq_true_eq, beq_iff_eq]

theorem idProblems_eq_nil : r.idProblems = [] ↔
    (∀ c ∈ r.cards, c.id ≠ "") ∧ (r.cards.map (·.id)).Nodup := by
  have hid (id : String) (count : Nat) : (if (Datum.value id).truthy = true
        then onlyIf (1 < count) (Problem.cardRepeated (Datum.plain id) count)
        else [Problem.cardWithoutId]) = [] ↔ id ≠ "" ∧ count ≤ 1 := by
    have htruthy : (Datum.value id).truthy = true ↔ id ≠ "" := bne_iff_ne
    by_cases h : (Datum.value id).truthy = true
    · rw [if_pos h, onlyIf_eq_nil, not_lt]
      exact (and_iff_right (htruthy.mp h)).symm
    · rw [if_neg h]
      exact iff_of_false (List.cons_ne_nil _ _) fun hboth => h (htruthy.mpr hboth.1)
  unfold idProblems
  simp only [List.flatMap_eq_nil_iff, mem_eraseDupsBy_same, countP_same, hid, List.nodup_iff_count_le_one]
  constructor
  · intro h
    refine ⟨fun c hc => (h c.id (List.mem_map_of_mem hc)).1, fun id => ?_⟩
    -- only ids of cards are looked at, but the others are not repeated either
    by_cases hmem : id ∈ r.cards.map (·.id)
    · exact (h id hmem).2
    · exact (List.count_eq_zero_of_not_mem hmem).trans_le zero_le_one
  · rintro ⟨hnamed, hcount⟩ id hmem
    obtain ⟨c, hc, rfl⟩ := List.mem_map.mp hmem
    exact ⟨hnamed c hc, hcount c.id⟩

theorem pairCount_eq (g : Guild) (c : Color) :
    r.pairCount g c = (r.cards.filter fun card => card.guild = g ∧ card.color = c).length := by
  rw [pairCount, List.countP_eq_length_filter]
  simp only [Bool.decide_and]

theorem pairProblems_eq_nil : r.pairProblems = [] ↔ r.cards = [] ∨
    ∀ g c, (r.cards.filter fun card => card.guild = g ∧ card.color = c).length = 2 := by
  have hguild (g : Guild) : g ∈ Guild.all := by cases g <;> decide
  have hcolor (c : Color) : c ∈ Color.all := by cases c <;> decide
  unfold pairProblems
  split_ifs with hempty
  · simp [List.isEmpty_iff.mp hempty]
  · have hne : r.cards ≠ [] := fun hnil => hempty (by rw [hnil]; rfl)
    simp only [List.flatMap_eq_nil_iff, onlyIf_eq_nil, hguild, hcolor, true_imp_iff, hne, false_or,
      not_not, pairCount_eq]
    rfl

theorem supplyProblems_eq_nil : r.supplyProblems = [] ↔
    r.cards = [] ∨ r.maxPlayers * (r.handSize + r.deckSize) ≤ r.cards.length := by
  unfold supplyProblems
  rw [onlyIf_eq_nil, not_and_or, not_lt, Bool.not_eq_false, List.isEmpty_iff]
  rfl

theorem tell_supplyProblems_eq_error : Problem.tell r.supplyProblems = .error f ↔
    r.SupplyTooLong ∧ f = .tooLongToWrite := by
  rw [Problem.tell, tell_eq_error]
  refine and_congr_left fun _ => ⟨?_, fun ⟨hcards, hfew, hlong⟩ => ?_⟩
  · rintro ⟨v, hv, hlong⟩
    obtain ⟨p, hp, hv⟩ := List.mem_flatMap.mp hv
    obtain ⟨⟨hcards, hfew⟩, rfl⟩ := mem_onlyIf.mp hp
    refine ⟨?_, hfew, ?_⟩
    · rintro hnil
      simp [hnil] at hcards
    · simp only [Problem.shown, List.mem_cons, List.not_mem_nil, or_false] at hv
      obtain rfl | rfl := hv
      · exact .inl (tooLong_iff.mpr hlong)
      · exact .inr (tooLong_iff.mpr hlong)
  · have hmem : Problem.tooFewCards r.maxPlayers r.cardsNeeded r.cards.length ∈ r.supplyProblems :=
      mem_onlyIf.mpr ⟨⟨by simpa using hcards, hfew⟩, rfl⟩
    rcases hlong with hlong | hlong
    · exact ⟨_, List.mem_flatMap.mpr ⟨_, hmem, List.mem_cons_self⟩, tooLong_iff.mp hlong⟩
    · exact ⟨_, List.mem_flatMap.mpr ⟨_, hmem, List.mem_cons_of_mem _ List.mem_cons_self⟩,
        tooLong_iff.mp hlong⟩

end Cards

section Sites

theorem mem_expectedIds {n : Int} : n ∈ r.expectedIds ↔ 1 ≤ n ∧ n ≤ r.grid.columns * r.grid.rows := by
  have hsize : r.grid.columns * r.grid.rows = r.grid.size := rfl
  rw [hsize, expectedIds, List.mem_map]
  constructor
  · rintro ⟨i, hi, rfl⟩
    rw [List.mem_range] at hi
    omega
  · rintro ⟨hlo, hhi⟩
    exact ⟨(n - 1).toNat, List.mem_range.mpr (by omega), by omega⟩

theorem pairwise_expectedIds : r.expectedIds.Pairwise (· < ·) := by
  rw [expectedIds, List.pairwise_map]
  exact List.pairwise_lt_range.imp fun h => by omega

theorem expectedIds_iff :
    (r.sites.length == r.grid.size.toNat && r.sortedIds == r.expectedIds) = true ↔ r.Numbered := by
  have hnodup : r.expectedIds.Nodup := pairwise_expectedIds.imp ne_of_lt
  have hsorted : r.sortedIds.Perm (r.sites.map (·.id)) := List.mergeSort_perm _ _
  have hperm : (r.sites.length == r.grid.size.toNat && r.sortedIds == r.expectedIds) = true ↔
      (r.sites.map (·.id)).Perm r.expectedIds := by
    rw [Bool.and_eq_true, beq_iff_eq, beq_iff_eq]
    constructor
    · rintro ⟨-, h⟩
      exact hsorted.symm.trans (List.Perm.of_eq h)
    · intro h
      -- two sorted lists of the same ids are equal
      have hlength := h.length_eq
      rw [List.length_map, expectedIds, List.length_map, List.length_range] at hlength
      have hleft : r.sortedIds.Pairwise (· ≤ ·) := by
        have htrans (a b c : Int) (hab : decide (a ≤ b) = true) (hbc : decide (b ≤ c) = true) :
            decide (a ≤ c) = true :=
          decide_eq_true ((of_decide_eq_true hab).trans (of_decide_eq_true hbc))
        have htotal (a b : Int) : (decide (a ≤ b) || decide (b ≤ a)) = true := by
          rw [Bool.or_eq_true, decide_eq_true_eq, decide_eq_true_eq]
          exact le_total a b
        exact (List.pairwise_mergeSort htrans htotal (r.sites.map (·.id))).imp of_decide_eq_true
      have hright : r.expectedIds.Pairwise (· ≤ ·) := pairwise_expectedIds.imp le_of_lt
      exact ⟨hlength, List.Perm.eq_of_pairwise (fun a b _ _ => le_antisymm) hleft hright
        (hsorted.trans h)⟩
  rw [hperm]
  constructor
  · intro h
    exact ⟨h.nodup_iff.mpr hnodup, fun n => h.mem_iff.trans mem_expectedIds⟩
  · rintro ⟨hdistinct, hids⟩
    exact (List.perm_ext_iff_of_nodup hdistinct hnodup).mpr fun n => (hids n).trans mem_expectedIds.symm

theorem makeRoom_eq_ok {room : Nat} {n : Int} (hsize : n < 2 ^ 63) (hfits : n ≤ room) :
    makeRoom room n = .ok () := by
  have hcount : ((countLimit : Nat) : Int) = 2 ^ 63 := by decide
  rw [makeRoom, hcount, if_neg (not_le.mpr hsize), if_neg (not_lt.mpr hfits)]

theorem mapProblems_of_nil (hsites : r.sites = []) : r.mapProblems room = .ok [] := by
  rw [mapProblems, if_pos (List.isEmpty_iff.mpr hsites)]
  rfl

theorem mapProblems_of_uncountable (hsites : r.sites ≠ [])
    (hsize : 2 ^ 63 ≤ r.grid.columns * r.grid.rows) :
    r.mapProblems room = .error .tooManyItems := by
  have hcount : ((countLimit : Nat) : Int) = 2 ^ 63 := by decide
  have hroom : makeRoom room r.grid.size = .error .tooManyItems := by
    rw [makeRoom, hcount, if_pos (by exact hsize)]
  rw [mapProblems, if_neg (mt List.isEmpty_iff.mp hsites), hasExpectedIds, hroom]
  rfl

theorem mapProblems_of_noRoom (hsites : r.sites ≠ [])
    (hsize : r.grid.columns * r.grid.rows < 2 ^ 63) (hlarge : room < r.grid.columns * r.grid.rows) :
    r.mapProblems room = .error .outOfMemory := by
  have hcount : ((countLimit : Nat) : Int) = 2 ^ 63 := by decide
  have hroom : makeRoom room r.grid.size = .error .outOfMemory := by
    rw [makeRoom, hcount, if_neg (by exact not_le.mpr hsize), if_pos (by exact hlarge)]
  rw [mapProblems, if_neg (mt List.isEmpty_iff.mp hsites), hasExpectedIds, hroom]
  rfl

theorem exists_mapProblems (hsites : r.sites ≠ [])
    (hsize : r.grid.columns * r.grid.rows < 2 ^ 63) (hfits : r.grid.columns * r.grid.rows ≤ room) :
    ∃ expected : Bool, (expected = true ↔ r.Numbered) ∧ r.mapProblems room =
      if r.grid.columns = 0 then .error .divisionByZero
      else Problem.tell (r.layoutProblems expected) := by
  refine ⟨_, expectedIds_iff, ?_⟩
  rw [mapProblems, if_neg (mt List.isEmpty_iff.mp hsites), hasExpectedIds,
    makeRoom_eq_ok (by exact hsize) (by exact hfits)]
  split_ifs <;> rfl

theorem mapProblems_of_noColumns (hsites : r.sites ≠ []) (hcolumns : r.grid.columns = 0) :
    r.mapProblems room = .error .divisionByZero := by
  have hsize : r.grid.columns * r.grid.rows = 0 := by rw [hcolumns, zero_mul]
  have hfits : r.grid.columns * r.grid.rows ≤ room := hsize ▸ Int.natCast_nonneg room
  obtain ⟨expected, -, h⟩ := exists_mapProblems hsites (by rw [hsize]; decide) hfits
  rw [h, if_pos hcolumns]

theorem layoutProblems_eq_nil {expected : Bool} (h : expected = true ↔ r.Numbered) :
    r.layoutProblems expected = [] ↔ r.FullMap := by
  have hsites : r.siteProblems = [] ↔ ∀ s ∈ r.sites,
      s.row = (s.id - 1).fdiv r.grid.columns ∧ s.column = (s.id - 1).fmod r.grid.columns := by
    simp only [siteProblems, List.flatMap_eq_nil_iff, onlyIf_eq_nil, ne_eq, not_not, Prod.mk.injEq]
    rfl
  have hstart : (r.sites.any fun s => s.kind = .starting) = true ↔
      ∃ s ∈ r.sites, s.kind = .starting := by
    simp only [List.any_eq_true, decide_eq_true_eq]
  rw [layoutProblems, List.append_eq_nil_iff, List.append_eq_nil_iff, onlyIf_eq_nil, onlyIf_eq_nil,
    Bool.not_eq_false, not_not, h, hsites, hstart]
  constructor
  · rintro ⟨⟨⟨hdistinct, hids⟩, hplaced⟩, hstart⟩
    exact ⟨hdistinct, hids, hplaced, hstart⟩
  · intro hmap
    exact ⟨⟨⟨hmap.distinct, hmap.ids⟩, hmap.placed⟩, hmap.start⟩

theorem layoutProblems_tooLong {expected : Bool} (h : expected = true ↔ r.Numbered) :
    (∃ v ∈ (r.layoutProblems expected).flatMap Problem.shown, v.isWritable = false) ↔
      r.MapTooLong := by
  constructor
  · rintro ⟨v, hv, hlong⟩
    obtain ⟨p, hp, hv⟩ := List.mem_flatMap.mp hv
    rw [layoutProblems, List.mem_append, List.mem_append] at hp
    obtain (hp | hp) | hp := hp
    · obtain ⟨hunlike, rfl⟩ := mem_onlyIf.mp hp
      obtain rfl := List.mem_singleton.mp hv
      exact .ids (mt h.mpr (Bool.not_eq_true _ ▸ hunlike)) (tooLong_iff.mpr hlong)
    · obtain ⟨s, hs, hp⟩ := List.mem_flatMap.mp hp
      obtain ⟨hapart, rfl⟩ := mem_onlyIf.mp hp
      change v ∈ List.map Value.int [s.id, s.row, s.column, _, _] at hv
      obtain ⟨n, hn, rfl⟩ := List.mem_map.mp hv
      exact .site s hs (fun hplaced => hapart (Prod.ext hplaced.1 hplaced.2)) n hn
        (tooLong_iff.mpr hlong)
    · obtain ⟨-, rfl⟩ := mem_onlyIf.mp hp
      cases hv
  · have hmem {p : Problem} {n : Int} (hp : p ∈ r.layoutProblems expected)
        (hn : Value.int n ∈ p.shown) (hlong : TooLong n) :
        ∃ v ∈ (r.layoutProblems expected).flatMap Problem.shown, v.isWritable = false :=
      ⟨_, List.mem_flatMap.mpr ⟨p, hp, hn⟩, tooLong_iff.mp hlong⟩
    rintro (⟨hunlike, hlong⟩ | ⟨s, hs, hapart, n, hn, hlong⟩)
    · refine hmem (List.mem_append_left _ (List.mem_append_left _ (mem_onlyIf.mpr ⟨?_, rfl⟩)))
        List.mem_cons_self hlong
      exact Bool.eq_false_iff.mpr (mt h.mp hunlike)
    · refine hmem (List.mem_append_left _ (List.mem_append_right _
        (List.mem_flatMap.mpr ⟨s, hs, mem_onlyIf.mpr ⟨fun heq => hapart ?_, rfl⟩⟩)))
        (List.mem_map_of_mem (f := Value.int) hn) hlong
      exact Prod.mk.injEq .. ▸ heq

theorem mapProblems_eq_error : r.mapProblems room = .error f ↔ r.MapObstacle room f := by
  constructor
  · intro h
    by_cases hsites : r.sites = []
    · rw [mapProblems_of_nil hsites] at h
      cases h
    by_cases hsize : 2 ^ 63 ≤ r.grid.columns * r.grid.rows
    · rw [mapProblems_of_uncountable hsites hsize] at h
      exact Except.error.inj h ▸ .uncountable hsites hsize
    rw [not_le] at hsize
    by_cases hlarge : room < r.grid.columns * r.grid.rows
    · rw [mapProblems_of_noRoom hsites hsize hlarge] at h
      exact Except.error.inj h ▸ .noRoom hsites hsize hlarge
    rw [not_lt] at hlarge
    obtain ⟨expected, hexpected, heq⟩ := exists_mapProblems hsites hsize hlarge
    rw [heq] at h
    split_ifs at h with hcolumns
    · exact Except.error.inj h ▸ .noColumns hsites hcolumns
    · obtain ⟨hlong, rfl⟩ := tell_eq_error.mp h
      exact .tooLong hsites hsize hlarge hcolumns ((layoutProblems_tooLong hexpected).mp hlong)
  · intro h
    cases h with
    | uncountable hsites hsize => exact mapProblems_of_uncountable hsites hsize
    | noRoom hsites hsize hlarge => exact mapProblems_of_noRoom hsites hsize hlarge
    | noColumns hsites hcolumns => exact mapProblems_of_noColumns hsites hcolumns
    | tooLong hsites hsize hfits hcolumns hlong =>
      obtain ⟨expected, hexpected, heq⟩ := exists_mapProblems hsites hsize hfits
      rw [heq, if_neg hcolumns]
      exact tell_eq_error.mpr ⟨(layoutProblems_tooLong hexpected).mpr hlong, rfl⟩

theorem mapProblems_eq_nil (h : r.mapProblems room = .ok ps) :
    ps = [] ↔ r.sites = [] ∨ r.FullMap := by
  by_cases hsites : r.sites = []
  · rw [mapProblems_of_nil hsites] at h
    exact iff_of_true (Except.ok.inj h).symm (.inl hsites)
  have hnot {f : Fault} (hobstacle : r.MapObstacle room f) : False := by
    rw [mapProblems_eq_error.mpr hobstacle] at h
    cases h
  have hsize := not_le.mp fun hsize => hnot (.uncountable hsites hsize)
  have hfits := not_lt.mp fun hlarge => hnot (.noRoom hsites hsize hlarge)
  obtain ⟨expected, hexpected, heq⟩ := exists_mapProblems hsites hsize hfits
  rw [heq, if_neg fun hcolumns => hnot (.noColumns hsites hcolumns)] at h
  obtain ⟨-, rfl⟩ := tell_eq_ok.mp h
  rw [layoutProblems_eq_nil hexpected, or_iff_right hsites]

end Sites

section Count
variable {α β : Type} [DecidableEq β]

theorem sum_map_eq_count (all : List β) (c : β) :
    (all.map fun b => if c = b then 1 else 0).sum = all.count c := by
  induction all with
  | nil => rfl
  | cons b all ih =>
    rw [List.map_cons, List.sum_cons, ih, List.count_cons, Nat.add_comm]
    by_cases h : c = b
    · simp [h]
    · simp [h, Ne.symm h]

theorem length_eq_sum {all : List β} (hall : ∀ b, all.count b = 1) (kind : α → β) (as : List α) :
    as.length = (all.map fun b => (as.filter fun a => kind a = b).length).sum := by
  induction as with
  | nil => simp
  | cons a as ih =>
    have hcons (b : β) : ((a :: as).filter fun a => kind a = b).length =
        (as.filter fun a => kind a = b).length + if kind a = b then 1 else 0 := by
      by_cases hb : kind a = b
      · rw [List.filter_cons_of_pos (by simpa using hb), if_pos hb, List.length_cons]
      · rw [List.filter_cons_of_neg (by simpa using hb), if_neg hb, Nat.add_zero]
    simp only [hcons, List.sum_map_add, ← ih, sum_map_eq_count, hall, List.length_cons]

end Count

theorem FullCatalog.length_eq (h : r.FullCatalog) : r.cards.length = 50 := by
  have hguilds (g : Guild) : Guild.all.count g = 1 := by cases g <;> rfl
  have hcolors (c : Color) : Color.all.count c = 1 := by cases c <;> rfl
  have hpair (g : Guild) (c : Color) :
      ((r.cards.filter fun card => card.guild = g).filter fun card => card.color = c).length = 2 := by
    rw [List.filter_filter, ← h.paired g c]
    simp only [Bool.decide_and, Bool.and_comm]
  have hten (g : Guild) : (r.cards.filter fun card => card.guild = g).length = 10 := by
    rw [length_eq_sum hcolors fun card => card.color]
    simp only [hpair]
    rfl
  rw [length_eq_sum hguilds fun card => card.guild]
  simp only [hten]
  rfl

theorem problems_eq_error : r.problems room = .error f ↔ r.Obstacle room f := by
  constructor
  · intro h
    rcases bind_eq_error.mp h with h | ⟨onMap, hmap, h⟩
    · exact .map (mapProblems_eq_error.mp h)
    rcases bind_eq_error.mp h with h | ⟨onSupply, -, h⟩
    · obtain ⟨hlong, rfl⟩ := tell_supplyProblems_eq_error.mp h
      refine .supply (fun f hobstacle => ?_) hlong
      rw [mapProblems_eq_error.mpr hobstacle] at hmap
      cases hmap
    · cases h
  · intro h
    cases h with
    | map h => exact bind_eq_error.mpr (.inl (mapProblems_eq_error.mpr h))
    | supply h hlong =>
      have hsupply := tell_supplyProblems_eq_error.mpr ⟨hlong, rfl⟩
      refine bind_eq_error.mpr (.inr ?_)
      cases hmap : r.mapProblems room with
      | error f => exact absurd (mapProblems_eq_error.mp hmap) (h f)
      | ok onMap => exact ⟨onMap, rfl, bind_eq_error.mpr (.inl hsupply)⟩

theorem problems_eq_nil (h : r.problems room = .ok ps) : ps = [] ↔ r.Sound := by
  obtain ⟨onMap, hmap, h⟩ := bind_eq_ok.mp h
  obtain ⟨onSupply, hsupply, h⟩ := bind_eq_ok.mp h
  obtain rfl := pure_eq_ok.mp h
  obtain ⟨-, rfl⟩ := tell_eq_ok.mp hsupply
  simp only [List.append_eq_nil_iff, constantProblems_eq_nil, idProblems_eq_nil, pairProblems_eq_nil,
    supplyProblems_eq_nil, mapProblems_eq_nil hmap]
  constructor
  · rintro ⟨⟨⟨⟨⟨hid, hplayers, hhand⟩, hnamed, hdistinct⟩, hpairs⟩, honMap⟩, hsupply⟩
    refine ⟨hid, hplayers, hhand, ?_, honMap⟩
    by_cases hcards : r.cards = []
    · exact .inl hcards
    · exact .inr ⟨hnamed, hdistinct, hpairs.resolve_left hcards, hsupply.resolve_left hcards⟩
  · intro hsound
    refine ⟨⟨⟨⟨⟨hsound.id, hsound.players, hsound.hand⟩, ?_⟩, ?_⟩, hsound.map⟩, ?_⟩
    · rcases hsound.catalog with hcards | hcards
      · simp [hcards]
      · exact ⟨hcards.named, hcards.distinct⟩
    · exact hsound.catalog.imp_right FullCatalog.paired
    · exact hsound.catalog.imp_right FullCatalog.supply

theorem FullMap.columns_ne_zero (h : r.FullMap) : r.grid.columns ≠ 0 := by
  intro hzero
  obtain ⟨s, hs, -⟩ := h.start
  have hid := (h.ids s.id).mp (List.mem_map_of_mem hs)
  rw [hzero, zero_mul] at hid
  omega

theorem FullMap.not_tooLong (h : r.FullMap) : ¬r.MapTooLong := by
  rintro (⟨hunlike, -⟩ | ⟨s, hs, hapart, -⟩)
  · exact hunlike ⟨h.distinct, h.ids⟩
  · exact hapart (h.placed s hs)

theorem not_mapObstacle (hmap : r.sites = [] ∨ r.FullMap ∧
    r.grid.columns * r.grid.rows < 2 ^ 63 ∧ r.grid.columns * r.grid.rows ≤ room) :
    ¬r.MapObstacle room f := by
  intro h
  cases h with
  | uncountable hsites hsize => exact absurd hsize (not_le.mpr (hmap.resolve_left hsites).2.1)
  | noRoom hsites _ hlarge => exact absurd hlarge (not_lt.mpr (hmap.resolve_left hsites).2.2)
  | noColumns hsites hzero => exact (hmap.resolve_left hsites).1.columns_ne_zero hzero
  | tooLong hsites _ _ _ hlong => exact (hmap.resolve_left hsites).1.not_tooLong hlong

theorem Sound.not_obstacle (hsound : r.Sound)
    (hmap : r.sites = [] ∨
      r.grid.columns * r.grid.rows < 2 ^ 63 ∧ r.grid.columns * r.grid.rows ≤ room) :
    ¬r.Obstacle room f := by
  intro h
  cases h with
  | map h =>
    refine not_mapObstacle ?_ h
    by_cases hsites : r.sites = []
    · exact .inl hsites
    · exact .inr ⟨hsound.map.resolve_left hsites, hmap.resolve_left hsites⟩
  | supply _ hlong =>
    exact absurd hlong.few (not_lt.mpr (hsound.catalog.resolve_left hlong.cards).supply)

end Rulebook

end GuildCards
