import Mathlib
import GuildCards.Shuffle.Seeded

/-!
What a shuffle does to places. Every number is drawn below its bound, so each place but the first is
exchanged once, from the last one down, with a place that exists and is not above it. Exchanges rearrange
places and look at no item: all of them together are one permutation, whatever lies there.
-/
namespace GuildCards.Shuffle

variable {α β ν : Type} {n : ℕ} {t : Twister} {drawn : List (Fin n × Fin n)}

/-- A number that is drawn lies below its bound, also where the draws run out before one fits. -/
theorem Twister.below_lt {m : ℕ} (hm : 0 < m) (draws : ℕ) (t : Twister) :
    (t.below m draws).1 < m := by
  fun_induction Twister.below m draws t with
  | case1 t => exact hm
  | case2 t draws x t' hx hfit => exact hfit
  | case3 t x t' hx hfit => exact Nat.mod_lt x hm
  | case4 t draws x t' hx hfit hlast ih => exact ih

theorem exchanges_downward (n : ℕ) (t : Twister) :
    (exchanges n t).map Prod.fst = (List.range' 1 (n - 1)).reverse := by
  fun_induction exchanges n t with
  | case1 t => rfl
  | case2 t => rfl
  | case3 n t j t' hj ih =>
    change (n + 1) :: _ = (List.range' 1 (n + 1)).reverse
    rw [ih, List.range'_1_concat, List.reverse_concat, Nat.add_comm 1 n]
    rfl

theorem le_of_mem_exchanges {x : ℕ × ℕ} (hx : x ∈ exchanges n t) : x.2 ≤ x.1 := by
  fun_induction exchanges n t with
  | case1 t => cases hx
  | case2 t => cases hx
  | case3 n t j t' hj ih =>
    rcases List.mem_cons.mp hx with rfl | hx
    · have hlt := Twister.below_lt (Nat.succ_pos (n + 1)) Twister.patience t
      rw [hj] at hlt
      exact Nat.le_of_lt_succ hlt
    · exact ih hx

theorem lt_of_mem_exchanges {x : ℕ × ℕ} (hx : x ∈ exchanges n t) : x.1 < n := by
  have hmem : x.1 ∈ (exchanges n t).map Prod.fst := List.mem_map_of_mem hx
  rw [exchanges_downward, List.mem_reverse, List.mem_range'_1] at hmem
  omega

structure Drawn (n : ℕ) (t : Twister) (drawn : List (Fin n × Fin n)) : Prop where
  exchanges : exchanges n t = drawn.map (Prod.map Fin.val Fin.val)
  downward : drawn.map (fun x => x.1.val) = (List.range' 1 (n - 1)).reverse
  notAbove : ∀ x ∈ drawn, x.2 ≤ x.1

theorem exists_drawn (n : ℕ) (t : Twister) : ∃ drawn, Drawn n t drawn := by
  have hplaces : ∀ x ∈ exchanges n t, x.1 < n ∧ x.2 < n := fun x hx =>
    ⟨lt_of_mem_exchanges hx, (le_of_mem_exchanges hx).trans_lt (lt_of_mem_exchanges hx)⟩
  let drawn : List (Fin n × Fin n) :=
    (exchanges n t).pmap (fun x h => (⟨x.1, h.1⟩, ⟨x.2, h.2⟩)) hplaces
  have hdrawn : exchanges n t = drawn.map (Prod.map Fin.val Fin.val) := by
    rw [List.map_pmap]
    exact (List.pmap_eq_self.mpr fun x hx => rfl).symm
  refine ⟨drawn, hdrawn, ?_, ?_⟩
  · rw [← exchanges_downward n t, hdrawn, List.map_map]
    rfl
  · intro x hx
    have hmem : (x.1.val, x.2.val) ∈ exchanges n t := hdrawn ▸ List.mem_map_of_mem hx
    exact le_of_mem_exchanges hmem

/-- Where each place has its item from after exchanges, one after the other. -/
def rearrangement (drawn : List (Fin n × Fin n)) : Equiv.Perm (Fin n) :=
  (drawn.map fun x => Equiv.swap x.1 x.2).prod

theorem rearrangement_cons (x : Fin n × Fin n) (drawn : List (Fin n × Fin n)) :
    rearrangement (x :: drawn) = Equiv.swap x.1 x.2 * rearrangement drawn := by
  rw [rearrangement, List.map_cons, List.prod_cons]
  rfl

theorem exchange_ofFn (as : Fin n → α) (x : Fin n × Fin n) :
    exchange (Array.ofFn as) (Prod.map Fin.val Fin.val x) =
      Array.ofFn (as ∘ Equiv.swap x.1 x.2) := by
  obtain ⟨i, j⟩ := x
  apply Array.ext
  · simp [exchange]
  · intro k hk hk'
    simp only [exchange, Prod.map, Array.getElem_swapIfInBounds, Array.getElem_ofFn,
      Array.size_ofFn, Function.comp_apply, Equiv.swap_apply_def, Fin.ext_iff, i.isLt, j.isLt,
      and_true]
    split_ifs <;> rfl

theorem foldl_exchange (drawn : List (Fin n × Fin n)) (as : Fin n → α) :
    (drawn.map (Prod.map Fin.val Fin.val)).foldl exchange (Array.ofFn as) =
      Array.ofFn (as ∘ rearrangement drawn) := by
  induction drawn generalizing as with
  | nil => rfl
  | cons x drawn ih =>
    -- the later exchanges take from what the first one left, so the first one acts last on a place
    rw [List.map_cons, List.foldl_cons, exchange_ofFn, ih, rearrangement_cons]
    rfl

-- The last place is exchanged with the first, then the second with the first.
example : List.ofFn (!["Ada", "Ben", "Cleo"] ∘ rearrangement [(2, 0), (1, 0)]) =
    ["Ben", "Cleo", "Ada"] := by decide

theorem labelled_ofFn {label : String} (h : Drawn n (generator label) drawn) (as : Fin n → α) :
    labelled label (List.ofFn as) = List.ofFn (as ∘ rearrangement drawn) := by
  rw [labelled, List.length_ofFn, List.toArray_ofFn, h.exchanges, foldl_exchange, Array.toList_ofFn]

theorem labelled_perm (label : String) (as : List α) : (labelled label as).Perm as := by
  induction as using List.ofFnRec with
  | h n as =>
    obtain ⟨drawn, hdrawn⟩ := exists_drawn n (generator label)
    rw [labelled_ofFn hdrawn]
    exact (rearrangement drawn).ofFn_comp_perm as

theorem labelled_map (label : String) (f : α → β) (as : List α) :
    labelled label (as.map f) = (labelled label as).map f := by
  induction as using List.ofFnRec with
  | h n as =>
    obtain ⟨drawn, hdrawn⟩ := exists_drawn n (generator label)
    rw [List.map_ofFn, labelled_ofFn hdrawn, labelled_ofFn hdrawn, List.map_ofFn]
    rfl

theorem seeded_map [Amount ν] (seed count : ν) (f : α → β) (as : List α) :
    seeded seed count (as.map f) = (seeded seed count as).map (List.map f) := by
  unfold seeded
  cases label seed count with
  | error e => rfl
  | ok l => exact congrArg Except.ok (labelled_map l f as)

end GuildCards.Shuffle
