import Mathlib
import GuildCards.Proofs.Effect.Recompile

/-!
Names of benefits. The name of a benefit is the text that it was compiled from, without regard to
letter case and to blanks around it; and an option found by its name is found again by its own text.
-/
namespace GuildCards.Effect
open Text Number

theorem lower_ne_nil {s : List Char} (h : s ≠ []) : lower s ≠ [] := by
  cases s with
  | nil => contradiction
  | cons c cs =>
    rw [lower, lowerFrom]
    apply List.append_ne_nil_of_left_ne_nil
    unfold lowerChar
    split_ifs <;> simp

theorem nameKey_empty : nameKey "" = "" := by
  decide

theorem benefit_text {text : List Char} {ts : List Token} {b : Benefit}
    (h : benefit text ts = .ok b) : b.text = spanText text ts := by
  obtain ⟨deltas, -, h⟩ := bind_eq_ok.mp h
  rw [pure_eq_ok.mp h]

section Find
variable {b : Benefit} {name : String}

theorem matches_iff : b.matches name = true ↔ nameKey b.text = nameKey name := by
  simp [Benefit.matches]

theorem nameKey_of_find? {bs : List Benefit} (h : bs.find? (·.matches name) = some b) :
    nameKey b.text = nameKey name := by
  have hmatch : b.matches name = true := by simpa using List.find?_some h
  exact matches_iff.mp hmatch

theorem exists_find? {bs : List Benefit} (hb : b ∈ bs) (h : nameKey b.text = nameKey name) :
    ∃ d, bs.find? (·.matches name) = some d := by
  rw [← Option.isSome_iff_exists, List.find?_isSome]
  exact ⟨b, hb, matches_iff.mpr h⟩

theorem find?_text {bs : List Benefit} (h : bs.find? (·.matches name) = some b) :
    bs.find? (·.matches b.text) = some b := by
  have hkey := nameKey_of_find? h
  have hsame : (fun x : Benefit => x.matches b.text) = fun x => x.matches name := by
    funext x
    rw [Benefit.matches, Benefit.matches, hkey]
  exact (congrArg (bs.find? ·) hsame).trans h

end Find

/-- A benefit that a conditional can bring: its own, or the first of a name if it nests some. -/
def Conditional.Offers (c : Conditional) (b : Benefit) : Prop :=
  if c.nested = [] then b = c.benefit else b ∈ c.nested ∧ c.find? b.text = some b

/-- Is this the benefit that is found when its text is looked up? A text that names none of those
that a conditional nests stands for the conditional's own. -/
def Conditional.Recalls (c : Conditional) (b : Benefit) : Prop :=
  if c.nested = [] then b = c.benefit else (c.find? b.text).getD c.benefit = b

theorem Conditional.Offers.recalls {c : Conditional} {b : Benefit} (h : c.Offers b) :
    c.Recalls b := by
  unfold Offers at h
  unfold Recalls
  split_ifs at h ⊢
  · exact h
  · rw [h.2, Option.getD_some]

end GuildCards.Effect
