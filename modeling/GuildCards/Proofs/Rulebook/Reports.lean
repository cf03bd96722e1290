import Mathlib
import GuildCards.Catalog.Standard
import GuildCards.Proofs.Rulebook.Valid

/-!
What a check reports. It comes to a report just when nothing keeps it from one, and then the report tells
whether the rulebook is sound. A check that takes problems for a fault fails with these at most, or as
the other does.
-/
namespace GuildCards

variable {r : Rulebook String} {room : Nat} {report : Report} {f : Fault}

namespace Rulebook

theorem check_eq_error : r.check room = .error f ↔ r.Obstacle room f := by
  rw [← problems_eq_error, check, bind_eq_error]
  exact or_iff_left fun ⟨_, _, h⟩ => nomatch h

theorem valid_iff_sound (h : r.check room = .ok report) : report.valid = true ↔ r.Sound := by
  obtain ⟨ps, hps, h⟩ := bind_eq_ok.mp h
  obtain rfl := pure_eq_ok.mp h
  exact List.isEmpty_iff.trans (problems_eq_nil hps)

theorem exists_check (h : ∀ f, ¬r.Obstacle room f) : ∃ report, r.check room = .ok report := by
  cases hcheck : r.check room with
  | ok report => exact ⟨report, rfl⟩
  | error f => exact absurd (check_eq_error.mp hcheck) (h f)

theorem Sound.exists_check (hsound : r.Sound)
    (hmap : r.sites = [] ∨
      r.grid.columns * r.grid.rows < 2 ^ 63 ∧ r.grid.columns * r.grid.rows ≤ room) :
    ∃ report, r.check room = .ok report ∧ report.valid = true := by
  obtain ⟨report, hreport⟩ := Rulebook.exists_check fun _ => hsound.not_obstacle hmap
  exact ⟨report, hreport, (valid_iff_sound hreport).mpr hsound⟩

theorem require_of_check (h : r.check room = .ok report) :
    r.require room = if report.valid then .ok report
      else .error (.invalidRulebook (report.problems.map Problem.message)) := by
  rw [require, h]
  rfl

theorem require_of_obstacle (h : r.Obstacle room f) : r.require room = .error f :=
  bind_eq_error.mpr (.inl (check_eq_error.mpr h))

end Rulebook

/-- A check decides whether a rulebook is sound. If the map has columns and room, and no message has to
show a number that is too long, the check lists no problem just when the constants are in order, the
catalog is empty or has distinct cards in pairs, fifty in all and enough for a full table, and the map is
empty or has each spot of the grid once and in its place. A check that takes problems for a fault fails
just when there are some, and tells the same ones. -/
theorem check_decides (hcolumns : 1 ≤ r.grid.columns)
    (hmap : r.sites = [] ∨ r.grid.columns * r.grid.rows < 2 ^ 63 ∧
      r.grid.columns * r.grid.rows ≤ room ∧ ¬r.MapTooLong)
    (hsupply : ¬r.SupplyTooLong) :
    ∃ report, r.check room = .ok report ∧ (report.valid = true ↔ r.Sound) ∧
      (r.Sound → r.cards = [] ∨ r.cards.length = 50) ∧
      (r.Sound → r.require room = .ok report) ∧
      (¬r.Sound →
        r.require room = .error (.invalidRulebook (report.problems.map Problem.message))) := by
  have hclear (f : Fault) : ¬r.Obstacle room f := by
    rintro (hobstacle | ⟨-, hlong⟩)
    · cases hobstacle with
      | uncountable hsites hsize => exact absurd hsize (not_le.mpr (hmap.resolve_left hsites).1)
      | noRoom hsites _ hlarge => exact absurd hlarge (not_lt.mpr (hmap.resolve_left hsites).2.1)
      | noColumns _ hzero => omega
      | tooLong hsites _ _ _ hlong => exact (hmap.resolve_left hsites).2.2 hlong
    · exact hsupply hlong
  obtain ⟨report, hcheck⟩ := Rulebook.exists_check hclear
  have hvalid := Rulebook.valid_iff_sound hcheck
  have hrequire := Rulebook.require_of_check hcheck
  refine ⟨report, hcheck, hvalid,
    fun hsound => hsound.catalog.imp_right Rulebook.FullCatalog.length_eq, fun hsound => ?_,
    fun hsound => ?_⟩
  · rw [hrequire, if_pos (hvalid.mpr hsound)]
  · rw [hrequire, if_neg (mt hvalid.mp hsound)]

def pairedRulebook : Rulebook String where
  id := "paired"
  title := "Paired"
  cards := Guild.all.flatMap fun g => Color.all.flatMap fun c => ["-1", "-2"].map fun number =>
    { id := g.name ++ "-" ++ c.name ++ number, guild := g, color := c
      power := sampleTiers, bonus := sampleText }
  sites := [⟨2, .normal, 0, 1⟩, ⟨1, .starting, 0, 0⟩]
  grid := ⟨2, 1⟩

theorem fullCatalog_paired : pairedRulebook.FullCatalog := by
  have hids : pairedRulebook.idProblems = [] := by decide +kernel
  have hpairs : pairedRulebook.pairProblems = [] := by decide +kernel
  exact ⟨(Rulebook.idProblems_eq_nil.mp hids).1, (Rulebook.idProblems_eq_nil.mp hids).2,
    (Rulebook.pairProblems_eq_nil.mp hpairs).resolve_left (List.cons_ne_nil _ _), by decide⟩

theorem fullMap_paired : pairedRulebook.FullMap where
  distinct := by decide
  ids n := by
    simp [pairedRulebook]
    omega
  placed := by decide
  start := by decide

/-- If the hands of the rulebook had a size of too many digits, no message could tell how many cards
are needed. -/
theorem obstacle_paired {n : Nat} (h : 10 ^ Number.digitLimit ≤ n) :
    let r : Rulebook String := { pairedRulebook with handSize := n }
    ¬r.Sound ∧ r.Obstacle ampleRoom .tooLongToWrite := by
  intro r
  have hmany : 10 ^ 2 ≤ n := (Nat.pow_le_pow_right (by decide) (by decide)).trans h
  have hfits : (2 * 1 : Int) < 2 ^ 63 ∧ (2 * 1 : Int) ≤ ampleRoom := by decide
  have hmap : r.FullMap :=
    ⟨fullMap_paired.distinct, fullMap_paired.ids, fullMap_paired.placed, fullMap_paired.start⟩
  have hlong : r.SupplyTooLong := by
    refine ⟨List.cons_ne_nil _ _, ?_, .inr ?_⟩
    · change (50 : Int) < 4 * (n + 5)
      omega
    · change 10 ^ Number.digitLimit ≤ (4 * ((n : Int) + 5)).natAbs
      omega
  refine ⟨fun hsound => ?_, .supply (fun f => ?_) hlong⟩
  · exact absurd hlong.few (not_lt.mpr (hsound.catalog.resolve_left hlong.cards).supply)
  · exact Rulebook.not_mapObstacle (.inr ⟨hmap, hfits⟩)

/-- The rulebook is sound and no check refuses it. Without its last card, and its map, it is not sound,
and the check tells which cards are too few. -/
theorem check_decides_paired :
    pairedRulebook.Sound ∧ (∃ report, pairedRulebook.require ampleRoom = .ok report) ∧
      let r := { pairedRulebook with cards := pairedRulebook.cards.dropLast, sites := [] }
      ¬r.Sound ∧ r.require ampleRoom =
        .error (.invalidRulebook ["Expected 2 purple building cards, found 1"]) := by
  let r := { pairedRulebook with cards := pairedRulebook.cards.dropLast, sites := [] }
  have hsound : pairedRulebook.Sound :=
    ⟨by decide, by decide, by decide, .inr fullCatalog_paired, .inr fullMap_paired⟩
  obtain ⟨report, -, -, -, hok, -⟩ : ∃ report, pairedRulebook.check ampleRoom = .ok report ∧ _ :=
    check_decides (by decide) (.inr ⟨by decide, by decide, fullMap_paired.not_tooLong⟩)
      fun h => absurd h.few (not_lt.mpr fullCatalog_paired.supply)
  have hfew : r.maxPlayers * (r.handSize + r.deckSize) ≤ (r.cards.length : Int) := by decide
  obtain ⟨less, hless, hvalid, -, -, herror⟩ : ∃ report, r.check ampleRoom = .ok report ∧ _ :=
    check_decides (by decide) (.inl rfl) fun h => absurd h.few (not_lt.mpr hfew)
  have hmessages : (r.check ampleRoom).toOption.map (·.problems.map Problem.message) =
      some ["Expected 2 purple building cards, found 1"] := by
    decide +kernel
  obtain ⟨report', hreport', htold⟩ := toOption_map_eq_some.mp hmessages
  obtain rfl : less = report' := Except.ok.inj (hless.symm.trans hreport')
  have hunsound : ¬r.Sound := by
    intro hr
    rw [List.isEmpty_iff.mp (hvalid.mpr hr)] at htold
    cases htold
  exact ⟨hsound, ⟨report, hok hsound⟩, hunsound, htold ▸ herror hunsound⟩

/-- Of a map with more places than can be counted, or a hand size of too many digits, no check decides:
the rulebook is not sound, but neither is it reported on nor are its problems the fault. -/
theorem check_decides_nothing :
    (let r : Rulebook String := { standardRulebook with grid := ⟨2 ^ 32, 2 ^ 32⟩ };
      1 ≤ r.grid.columns ∧ ¬r.Sound ∧ ∀ room,
        r.check room = .error .tooManyItems ∧ r.require room = .error .tooManyItems) ∧
    (let r : Rulebook String := { pairedRulebook with handSize := (10 ^ 5000 : Nat) };
      1 ≤ r.grid.columns ∧ ¬r.Sound ∧
        r.check ampleRoom = .error .tooLongToWrite ∧
          r.require ampleRoom = .error .tooLongToWrite) := by
  refine ⟨?_, ?_⟩
  · intro r
    have hobstacle (room : Nat) : r.Obstacle room .tooManyItems :=
      .map (.uncountable (by decide) (by decide))
    refine ⟨by decide, fun hsound => ?_, fun room =>
      ⟨Rulebook.check_eq_error.mpr (hobstacle room), Rulebook.require_of_obstacle (hobstacle room)⟩⟩
    have hmap : r.FullMap := hsound.map.resolve_left (by decide)
    have hlast : (2 ^ 64 : Int) ∈ r.sites.map (·.id) := (hmap.ids _).mpr ⟨by decide, by decide⟩
    revert hlast
    decide
  · intro r
    have hpow : 10 ^ Number.digitLimit ≤ 10 ^ 5000 :=
      pow_le_pow_right₀ (by decide) (by decide)
    obtain ⟨hunsound, hobstacle⟩ := obstacle_paired hpow
    exact ⟨le_of_lt (by decide : (1 : Int) < 2), hunsound, Rulebook.check_eq_error.mpr hobstacle,
      Rulebook.require_of_obstacle hobstacle⟩

/-- A check of a rulebook, whatever its constants and its map, comes to a report unless there is an
obstacle, and one that takes problems for a fault fails with these at most. Where there is an obstacle,
both fail by it. -/
theorem check_reports (r : Rulebook String) (room : Nat) :
    (∀ f, r.check room = .error f ↔ r.Obstacle room f) ∧
      (∀ f, r.Obstacle room f → r.require room = .error f) ∧
      ((∀ f, ¬r.Obstacle room f) →
        ∃ report, r.check room = .ok report ∧ (report.valid = true ↔ r.Sound) ∧
          r.require room = if report.valid then .ok report
            else .error (.invalidRulebook (report.problems.map Problem.message))) := by
  refine ⟨fun f => Rulebook.check_eq_error, fun f => Rulebook.require_of_obstacle, fun hclear => ?_⟩
  obtain ⟨report, hreport⟩ := Rulebook.exists_check hclear
  exact ⟨report, hreport, Rulebook.valid_iff_sound hreport, Rulebook.require_of_check hreport⟩

/-- The standard rulebook without columns is not reported on, and its problems are not the fault. -/
theorem check_divides_by_zero :
    let r : Rulebook String := { standardRulebook with grid := ⟨0, 4⟩ }
    ∀ room, (¬∃ report, r.check room = .ok report) ∧
      ∃ fault, r.require room = .error fault ∧ ∀ messages, fault ≠ .invalidRulebook messages := by
  intro r room
  have hobstacle : r.Obstacle room .divisionByZero := .map (.noColumns (by decide) rfl)
  refine ⟨fun ⟨report, h⟩ => ?_, .divisionByZero, Rulebook.require_of_obstacle hobstacle, fun _ => nofun⟩
  rw [Rulebook.check_eq_error.mpr hobstacle] at h
  cases h

end GuildCards
