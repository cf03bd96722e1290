import Mathlib
import GuildCards.Proofs.Board.Spots
import GuildCards.Proofs.Rulebook.Reports

/-!
Which spots are neighbours. On a grid with columns the row and the column of a spot tell its number,
and the four ways to a neighbour are the four steps along a row or a column that stay on the grid. On a
map that passes its check each neighbour of a spot is there, and where it is recorded is a step away.
-/
namespace GuildCards

/-- One step between two places: along a row or along a column, the other coordinate being the same. -/
def OneStep (p q : Int × Int) : Prop :=
  (p.1 = q.1 ∧ (p.2 - q.2).natAbs = 1) ∨ ((p.1 - q.1).natAbs = 1 ∧ p.2 = q.2)

theorem OneStep.symm {p q : Int × Int} (h : OneStep p q) : OneStep q p := by
  unfold OneStep at *
  omega

theorem not_oneStep_self (p : Int × Int) : ¬OneStep p p := by
  unfold OneStep
  omega

namespace Grid
variable {g : Grid} {i j a b : Int}

def Has (g : Grid) (i : Int) : Prop := 1 ≤ i ∧ i ≤ g.columns * g.rows

section Coordinates

theorem row_eq (h : 1 ≤ g.columns) (i : Int) : g.row i = (i - 1) / g.columns :=
  Int.fdiv_eq_ediv_of_nonneg _ (by omega)

theorem column_eq (h : 1 ≤ g.columns) (i : Int) : g.column i = (i - 1) % g.columns :=
  Int.fmod_eq_emod_of_nonneg _ (by omega)

theorem column_nonneg (h : 1 ≤ g.columns) (i : Int) : 0 ≤ g.column i := by
  rw [column_eq h]
  exact Int.emod_nonneg _ (by omega)

theorem column_lt (h : 1 ≤ g.columns) (i : Int) : g.column i < g.columns := by
  rw [column_eq h]
  exact Int.emod_lt_of_pos _ (by omega)

theorem number_eq (g : Grid) (i : Int) : i = g.columns * g.row i + g.column i + 1 := by
  have := Int.mul_fdiv_add_fmod (i - 1) g.columns
  unfold row column
  omega

theorem eq_number_iff (h : 1 ≤ g.columns) (hb : 0 ≤ b ∧ b < g.columns) :
    i = g.columns * a + b + 1 ↔ g.row i = a ∧ g.column i = b := by
  rw [row_eq h, column_eq h, Int.ediv_emod_unique (by omega)]
  omega

theorem has_iff (h : 1 ≤ g.columns) : g.Has i ↔ 0 ≤ g.row i ∧ g.row i < g.rows := by
  have hpos : 0 < g.columns := by omega
  rw [row_eq h, Int.le_ediv_iff_mul_le hpos, Int.ediv_lt_iff_lt_mul hpos, Int.mul_comm g.rows]
  unfold Has
  omega

theorem position?_eq (h : 1 ≤ g.columns) (i : Int) : g.position? i = some (g.row i, g.column i) :=
  if_neg (by omega)

end Coordinates

section Adjacent

theorem mem_adjacent : j ∈ g.adjacent i ↔ g.Has i ∧
    (0 < g.row i ∧ j = i - g.columns ∨ g.row i < g.rows - 1 ∧ j = i + g.columns ∨
      0 < g.column i ∧ j = i - 1 ∨ g.column i < g.columns - 1 ∧ j = i + 1) := by
  unfold adjacent Has
  by_cases hoff : i < 1 ∨ g.size < i
  · rw [if_pos hoff]
    unfold size at hoff
    exact iff_of_false List.not_mem_nil fun hon => by omega
  · rw [if_neg hoff]
    unfold size at hoff
    have hon : 1 ≤ i ∧ i ≤ g.columns * g.rows := by omega
    simp only [List.mem_append, List.mem_ite_nil_right, List.mem_singleton, or_assoc, hon, true_and]

theorem mem_adjacent_iff (h : 1 ≤ g.columns) : j ∈ g.adjacent i ↔
    g.Has i ∧ g.Has j ∧ OneStep (g.row i, g.column i) (g.row j, g.column j) := by
  have hlo := column_nonneg h i
  have hhi := column_lt h i
  have hlo' := column_nonneg h j
  have hhi' := column_lt h j
  have hnumber := number_eq g i
  -- each neighbour is the number of a place
  have hup : j = i - g.columns ↔ g.row j = g.row i - 1 ∧ g.column j = g.column i := by
    rw [← eq_number_iff h ⟨hlo, hhi⟩, Int.mul_sub]
    omega
  have hdown : j = i + g.columns ↔ g.row j = g.row i + 1 ∧ g.column j = g.column i := by
    rw [← eq_number_iff h ⟨hlo, hhi⟩, Int.mul_add]
    omega
  have hleft (hpos : 0 < g.column i) :
      j = i - 1 ↔ g.row j = g.row i ∧ g.column j = g.column i - 1 := by
    rw [← eq_number_iff h (by omega)]
    omega
  have hright (hlt : g.column i < g.columns - 1) :
      j = i + 1 ↔ g.row j = g.row i ∧ g.column j = g.column i + 1 := by
    rw [← eq_number_iff h (by omega)]
    omega
  rw [mem_adjacent, hup, hdown, and_congr_right hleft, and_congr_right hright, has_iff h, has_iff h]
  unfold OneStep
  omega

theorem nodup_adjacent (h : 1 ≤ g.columns) (i : Int) : (g.adjacent i).Nodup := by
  have hlo := column_nonneg h i
  have hhi := column_lt h i
  unfold adjacent
  split_ifs <;> simp <;> omega

end Adjacent

end Grid

theorem mem_emptyMap {g : Grid} {sites : List Site} {x : Spot String Int} :
    x ∈ emptyMap g sites ↔ ∃ s ∈ sites,
      { id := s.id, kind := s.kind, row := s.row, column := s.column, adjacent := g.adjacent s.id
        armies := 0 } = x := by
  have hadjacent (s : Site) : (g.adjacent s.id).map (Amount.ofInt (ν := Int)) = g.adjacent s.id :=
    List.map_id _
  unfold emptyMap
  simp only [List.mem_map, List.mem_mergeSort, Amount.ofInt_int, hadjacent]

theorem Rulebook.FullMap.exists_neighbour {r : Rulebook String} (hmap : r.FullMap)
    (h : 1 ≤ r.grid.columns) {x : Spot String Int} {n : Int} (hx : x ∈ emptyMap r.grid r.sites)
    (hn : n ∈ x.adjacent) : ∃ y ∈ emptyMap (ι := String) (ν := Int) r.grid r.sites,
      y.id = n ∧ OneStep (x.row, x.column) (y.row, y.column) := by
  obtain ⟨s, hs, rfl⟩ := mem_emptyMap.mp hx
  obtain ⟨-, hhas, hstep⟩ := (Grid.mem_adjacent_iff h).mp hn
  obtain ⟨t, ht, rfl⟩ := List.mem_map.mp ((hmap.ids n).mpr hhas)
  have hplace (u : Site) (hu : u ∈ r.sites) :
      (u.row, u.column) = (r.grid.row u.id, r.grid.column u.id) :=
    Prod.ext (hmap.placed u hu).1 (hmap.placed u hu).2
  refine ⟨_, mem_emptyMap.mpr ⟨t, ht, rfl⟩, rfl, ?_⟩
  change OneStep (s.row, s.column) (t.row, t.column)
  rw [hplace s hs, hplace t ht]
  exact hstep

/-- Spots of a grid are neighbours just when both are on it and their places differ by one in one
coordinate and not in the other. No spot is listed twice among the neighbours of another, or among its
own, and neighbours are so of each other. On the map of a rulebook that passes its check each neighbour
is a spot, recorded one step away. -/
theorem neighbours_one_step (g : Grid) (hcolumns : 1 ≤ g.columns) :
    (∀ i, (g.adjacent i).Nodup ∧ i ∉ g.adjacent i ∧ ∀ j,
      (j ∈ g.adjacent i ↔ g.Has i ∧ g.Has j ∧
        ∃ p, g.position? i = some p ∧ ∃ q, g.position? j = some q ∧ OneStep p q) ∧
      (j ∈ g.adjacent i ↔ i ∈ g.adjacent j)) ∧
    ∀ (r : Rulebook String) (room : Nat) (report : Report),
      r.grid = g → r.check room = .ok report → report.valid = true →
        ∀ x ∈ emptyMap (ι := String) (ν := Int) r.grid r.sites, ∀ n ∈ x.adjacent,
          ∃ y ∈ emptyMap (ι := String) (ν := Int) r.grid r.sites,
            y.id = n ∧ OneStep (x.row, x.column) (y.row, y.column) := by
  constructor
  · intro i
    refine ⟨Grid.nodup_adjacent hcolumns i, fun hself => ?_, fun j => ⟨?_, ?_⟩⟩
    · exact not_oneStep_self _ ((Grid.mem_adjacent_iff hcolumns).mp hself).2.2
    · simp only [Grid.mem_adjacent_iff hcolumns, Grid.position?_eq hcolumns, Option.some.injEq,
        exists_eq_left']
    · rw [Grid.mem_adjacent_iff hcolumns, Grid.mem_adjacent_iff hcolumns]
      exact ⟨fun ⟨hi, hj, h⟩ => ⟨hj, hi, h.symm⟩, fun ⟨hj, hi, h⟩ => ⟨hi, hj, h.symm⟩⟩
  · rintro r room report rfl hcheck hvalid x hx n hn
    rcases ((Rulebook.valid_iff_sound hcheck).mp hvalid).map with hnil | hmap
    · obtain ⟨s, hs, -⟩ := mem_emptyMap.mp hx
      rw [hnil] at hs
      cases hs
    · exact hmap.exists_neighbour hcolumns hx hn

/-- Two spots side by side pass the check without any cards, and are each other's only neighbour. -/
theorem neighbours_one_step_skirmish :
    let r : Rulebook String := { skirmishRulebook with cards := [] }
    1 ≤ r.grid.columns ∧ 2 ∈ r.grid.adjacent 1 ∧ 1 ∈ r.grid.adjacent 2 ∧
      ∃ report, r.check ampleRoom = .ok report ∧ report.valid = true ∧
        ∃ x ∈ emptyMap (ι := String) (ν := Int) r.grid r.sites, x.id = 1 ∧ x.adjacent = [2] ∧
          ∃ y ∈ emptyMap (ι := String) (ν := Int) r.grid r.sites,
            y.id = 2 ∧ OneStep (x.row, x.column) (y.row, y.column) := by
  intro r
  have hcolumns : 1 ≤ r.grid.columns := by decide
  have hmap : r.FullMap :=
    { distinct := by decide
      ids := fun n => by simp [r, skirmishRulebook]; omega
      placed := by decide
      start := by decide }
  have hsound : r.Sound := ⟨by decide, by decide, by decide, .inl rfl, .inr hmap⟩
  obtain ⟨report, hcheck, hvalid⟩ : ∃ report, r.check ampleRoom = .ok report ∧ report.valid = true :=
    hsound.exists_check (.inr (by decide))
  obtain ⟨hgrid, hspots⟩ := neighbours_one_step r.grid hcolumns
  have hneighbour : 2 ∈ r.grid.adjacent 1 := by decide
  let x : Spot String Int :=
    { id := 1, kind := .starting, row := 0, column := 0, adjacent := [2], armies := 0 }
  have hx : x ∈ emptyMap r.grid r.sites := by
    change x ∈ emptyMap skirmishRulebook.grid skirmishRulebook.sites
    rw [emptyMap_skirmish]
    exact List.mem_cons_self
  exact ⟨hcolumns, hneighbour, (((hgrid 1).2.2 2).2).mp hneighbour, report, hcheck,
    hvalid, x, hx, rfl, rfl,
    hspots r ampleRoom report rfl hcheck hvalid x hx 2 List.mem_cons_self⟩

end GuildCards
