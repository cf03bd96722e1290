import Mathlib
import GuildCards.Proofs.Effect.Names
import GuildCards.Proofs.Effect.Words

/-!
Blanks around a name and letter case. No character is blank in one letter case only, so a name has
blanks around it just when it has them in lower case. The names of benefits have none, since their
texts are cut out between tokens.
-/
namespace GuildCards.Effect
open Text

section Characters
variable {c d : Char} {before after : List Char} {n lo hi : Nat}

theorem lowerCode_cases (runs : List (Nat × Nat × Nat × Int)) (n : Nat) :
    lowerCode runs n = n ∨ ∃ run ∈ runs, run.1 ≤ n ∧ n ≤ run.2.1 ∧
      lowerCode runs n = (n + run.2.2.2).toNat := by
  induction runs with
  | nil => exact .inl rfl
  | cons run runs ih =>
    obtain ⟨first, last, step, gap⟩ := run
    rw [lowerCode]
    split_ifs with hfirst hlast
    · exact .inl rfl
    · rw [Bool.and_eq_true, decide_eq_true_eq] at hlast
      exact .inr ⟨_, List.mem_cons_self, not_lt.mp hfirst, hlast.1, rfl⟩
    · refine ih.imp_right ?_
      rintro ⟨run, hrun, h⟩
      exact ⟨run, List.mem_cons_of_mem _ hrun, h⟩

theorem not_isBlank_ofNat (hlo : lo ≤ n) (hhi : n ≤ hi)
    (h : ∀ x ∈ blankRanges, x.2 < lo ∨ hi < x.1) : isBlank (Char.ofNat n) = false := by
  by_cases hvalid : n.isValidChar
  · have hcode : (Char.ofNat n).toNat = n := by rw [Char.toNat_ofNat, if_pos hvalid]
    exact not_isBlank_of_between (hcode.symm ▸ hlo) (hcode.symm ▸ hhi) h
  · have hzero : Char.ofNat n = Char.ofNat 0 := by rw [Char.ofNat, dif_neg hvalid]; rfl
    rw [hzero]
    decide

/-- No blank has another form in lower case, and none is the form of another character. -/
theorem runs_not_blank : ∀ run ∈ lowerRuns, ∀ x ∈ blankRanges,
    (x.2 < run.1 ∨ run.2.1 < x.1) ∧
      (x.2 < (run.1 + run.2.2.2).toNat ∨ (run.2.1 + run.2.2.2).toNat < x.1) := by
  decide +kernel

theorem isBlank_lowerCode (c : Char) :
    isBlank (Char.ofNat (lowerCode lowerRuns c.toNat)) = isBlank c := by
  rcases lowerCode_cases lowerRuns c.toNat with hsame | ⟨run, hrun, hfirst, hlast, hform⟩
  · rw [hsame, Char.ofNat_toNat]
  · have hapart := runs_not_blank run hrun
    have hc : isBlank c = false :=
      not_isBlank_of_between hfirst hlast fun x hx => (hapart x hx).1
    have hlower : isBlank (Char.ofNat (c.toNat + run.2.2.2).toNat) = false :=
      not_isBlank_ofNat (by omega) (by omega) fun x hx => (hapart x hx).2
    rw [hform, hc, hlower]

theorem isBlank_of_mem_lowerChar (h : d ∈ lowerChar before c after) : isBlank d = isBlank c := by
  have hcode {n : Nat} (hn : c.toNat = n) (hnot : inRanges blankRanges n = false) :
      isBlank c = false := by rw [isBlank, hn, hnot]
  unfold lowerChar at h
  split_ifs at h with hascii hdotted hsigma hfinal
  · rw [List.mem_singleton.mp h, isBlank_toLower]
  · rw [hcode hdotted (by decide)]
    rcases List.mem_pair.mp h with rfl | rfl <;> decide
  · rw [hcode hsigma (by decide), List.mem_singleton.mp h]
    decide
  · rw [hcode hsigma (by decide), List.mem_singleton.mp h]
    decide
  · rw [List.mem_singleton.mp h, isBlank_lowerCode]

theorem lowerChar_ne_nil (before : List Char) (c : Char) (after : List Char) :
    lowerChar before c after ≠ [] := by
  unfold lowerChar
  split_ifs <;> simp

end Characters

section Ends
variable {s : List Char}

theorem head?_lower (s : List Char) : (lower s).head?.map isBlank = s.head?.map isBlank := by
  cases s with
  | nil => rfl
  | cons c s =>
    obtain ⟨d, ds, hd⟩ := List.exists_cons_of_ne_nil (lowerChar_ne_nil [] c s)
    have hblank : isBlank d = isBlank c := isBlank_of_mem_lowerChar (hd ▸ List.mem_cons_self)
    rw [lower, lowerFrom, hd, List.cons_append, List.head?_cons, List.head?_cons, Option.map_some,
      Option.map_some, hblank]

theorem getLast?_lowerFrom (before s : List Char) :
    (lowerFrom before s).getLast?.map isBlank = s.getLast?.map isBlank := by
  induction s generalizing before with
  | nil => rfl
  | cons c s ih =>
    rw [lowerFrom, List.getLast?_append]
    cases s with
    | nil =>
      have hne := lowerChar_ne_nil before c []
      have hblank : isBlank ((lowerChar before c []).getLast hne) = isBlank c :=
        isBlank_of_mem_lowerChar (List.getLast_mem hne)
      rw [List.getLast?_eq_some_getLast hne]
      exact congrArg some hblank
    | cons e s =>
      have hrest := ih (c :: before)
      cases hlast : (lowerFrom (c :: before) (e :: s)).getLast? with
      | none => simp [hlast] at hrest
      | some d =>
        rw [hlast] at hrest
        rw [Option.some_or, hrest, List.getLast?_cons_cons]

theorem tight_iff :
    Tight s ↔ s.head?.map isBlank = some false ∧ s.getLast?.map isBlank = some false := by
  have hany (o : Option Char) : o.any (!isBlank ·) = true ↔ o.map isBlank = some false := by
    cases o <;> simp
  rw [← hany, ← hany]
  exact ⟨fun h => ⟨h.first, h.last⟩, fun h => ⟨h.1, h.2⟩⟩

theorem tight_lower : Tight (lower s) ↔ Tight s := by
  rw [tight_iff, tight_iff, head?_lower, lower, getLast?_lowerFrom]

theorem tight_strip (s : List Char) (hne : strip s ≠ []) : Tight (strip s) := by
  let u := s.dropWhile isBlank
  let v := u.reverse.dropWhile isBlank
  have hstrip : strip s = v.reverse := rfl
  have hv : v ≠ [] := by simpa [hstrip] using hne
  have hsuffix : v <:+ u.reverse := List.dropWhile_suffix isBlank
  have hu : u ≠ [] := by
    intro hnil
    rw [hnil] at hsuffix
    exact hv (List.suffix_nil.mp hsuffix)
  have hlast : isBlank (v.head hv) = false := List.head_dropWhile_not isBlank hv
  -- the end of what is left by the second pass is where the first pass stopped
  have hfirst : isBlank (v.getLast hv) = false := by
    rw [hsuffix.getLast hv, List.getLast_reverse]
    exact List.head_dropWhile_not isBlank hu
  rw [tight_iff, hstrip, List.head?_reverse, List.getLast?_reverse,
    List.getLast?_eq_some_getLast hv, List.head?_eq_some_head hv]
  exact ⟨congrArg some hfirst, congrArg some hlast⟩

theorem strip_strip (s : List Char) : strip (strip s) = strip s := by
  by_cases hnil : strip s = []
  · rw [hnil]
    rfl
  · exact (tight_strip s hnil).strip

theorem strip_eq_self_iff : strip s = s ↔ s = [] ∨ Tight s := by
  constructor
  · intro h
    by_cases hnil : s = []
    · exact .inl hnil
    · exact .inr (h ▸ tight_strip s (h.symm ▸ hnil))
  · rintro (rfl | h)
    · rfl
    · exact h.strip

theorem strip_lower : strip (lower s) = lower s ↔ strip s = s := by
  have hnil : lower s = [] ↔ s = [] := by
    constructor
    · exact fun h => not_imp_not.mp lower_ne_nil h
    · rintro rfl
      rfl
  rw [strip_eq_self_iff, strip_eq_self_iff, tight_lower, hnil]

end Ends

theorem trim_eq_self_iff {s : String} : trim s = s ↔ strip s.toList = s.toList := by
  rw [trim, ← String.toList_inj, String.toList_ofList]

/-- A name has blanks around it in lower case just when it has them as it is. -/
theorem trim_lowercase {name : String} :
    trim (lowercase name) = lowercase name ↔ trim name = name := by
  rw [trim_eq_self_iff, trim_eq_self_iff, lowercase, String.toList_ofList, strip_lower]

theorem trim_spanText (text : List Char) (ts : List Token) :
    trim (spanText text ts) = spanText text ts := by
  rw [trim_eq_self_iff, spanText, String.toList_ofList, span]
  split
  · exact strip_strip _
  · rfl

end GuildCards.Effect
