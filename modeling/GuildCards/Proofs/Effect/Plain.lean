import Mathlib
import GuildCards.Proofs.Effect.Sentences
import GuildCards.Proofs.Effect.Trimmed

/-!
What the compiler tells apart. It does not tell capitals from small letters, nor one character from
another if each is a token of its own and no keyword can hold it. A text is compiled to the same
clauses, but for what they show, as its plain form, in which such characters are made one.
-/
namespace GuildCards.Effect
open Text Number

/-- Is the character beyond ASCII, with an ASCII letter in its lower-case form? There are two: the sign
for kelvin and the dotted capital I. -/
def isDisguised (c : Char) : Bool := c = '\u212A' || c = '\u0130'

/-- Is the character a token of its own, whatever stands beside it, and in no keyword? -/
def isForeign (c : Char) : Bool :=
  128 ≤ c.toNat && !isDigit c && !isBlank c && c ≠ '→' && !isDisguised c

def foreign : Char := '\uFFFD'

/-- A character as far as the compiler tells it from others. -/
def plain (c : Char) : Char := if isForeign c then foreign else c.toLower

section Characters
variable {c d : Char}

theorem foreign_iff : isForeign c = true ↔
    128 ≤ c.toNat ∧ isDigit c = false ∧ isBlank c = false ∧ c ≠ '→' ∧ isDisguised c = false := by
  simp [isForeign, and_assoc]

theorem isForeign_foreign : isForeign foreign = true := by decide +kernel

theorem plain_of_foreign (h : isForeign c = true) : plain c = foreign := if_pos h

theorem plain_of_not_foreign (h : isForeign c = false) : plain c = c.toLower :=
  if_neg (Bool.eq_false_iff.mp h)

theorem toLower_of_ge (h : 128 ≤ c.toNat) : c.toLower = c :=
  Char.toLower_eq_of_not_isUpper (not_isUpper_of_ge h)

theorem plain_of_isDigit (h : isDigit c = true) : plain c = c := by
  have hc : isForeign c = false := by simp [isForeign, h]
  rw [plain_of_not_foreign hc, toLower_of_not_isLetter (not_isLetter_of_isDigit h)]

theorem not_isLetter_of_ge (h : 128 ≤ c.toNat) : isLetter c = false := by
  rw [Bool.eq_false_iff]
  intro hletter
  simp only [isLetter, Bool.or_eq_true, Bool.and_eq_true, decide_eq_true_eq, Char.le_def,
    UInt32.le_iff_toNat_le] at hletter
  change (97 ≤ c.toNat ∧ c.toNat ≤ 122) ∨ (65 ≤ c.toNat ∧ c.toNat ≤ 90) at hletter
  omega

theorem keepsClasses_plain : KeepsClasses plain := by
  have hclass {p : Char → Bool} (hlower : ∀ c, p c.toLower = p c)
      (hforeign : ∀ c, isForeign c = true → p c = false) (c : Char) : p (plain c) = p c := by
    cases hc : isForeign c with
    | false => rw [plain_of_not_foreign hc, hlower]
    -- no foreign character is of a class, nor is the one that stands for them all
    | true => rw [plain_of_foreign hc, hforeign c hc, hforeign foreign isForeign_foreign]
  refine ⟨hclass isDigit_toLower fun c hc => (foreign_iff.mp hc).2.1,
    hclass isLetter_toLower fun c hc => not_isLetter_of_ge (foreign_iff.mp hc).1,
    hclass isBlank_toLower fun c hc => (foreign_iff.mp hc).2.2.1, fun c d hd => ?_⟩
  have hsign : ∀ e, isForeign e = true → e ≠ d := by
    rintro e he rfl
    have hnot : ∀ e ∈ ['→', '-', '\'', '>', '.', ','], isForeign e = false := by
      simp [isForeign]
    rw [hnot e hd] at he
    cases he
  cases hc : isForeign c with
  | false => rw [plain_of_not_foreign hc, toLower_eq_iff (signs_not_letters d hd)]
  | true =>
    rw [plain_of_foreign hc]
    exact iff_of_false (hsign foreign isForeign_foreign) (hsign c hc)

theorem digitValue?_plain (c : Char) : digitValue? (plain c) = digitValue? c := by
  cases hc : isDigit c with
  | true => rw [plain_of_isDigit hc]
  | false =>
    have hnone {d : Char} (hd : isDigit d = false) : digitValue? d = none := by
      simpa [isDigit] using hd
    rw [hnone hc, hnone ((keepsClasses_plain.digit c).trans hc)]

theorem toLower_plain_eq_iff (hd : d.toNat < 128) : (plain c).toLower = d ↔ c.toLower = d := by
  cases hc : isForeign c with
  | false => rw [plain_of_not_foreign hc, toLower_toLower]
  | true =>
    have hne {e : Char} (he : isForeign e = true) : e.toLower ≠ d := by
      have hge := (foreign_iff.mp he).1
      rw [toLower_of_ge hge]
      rintro rfl
      omega
    rw [plain_of_foreign hc]
    exact iff_of_false (hne isForeign_foreign) (hne hc)

end Characters

section Lower
variable {c d : Char} {s before after : List Char} {n lo hi : Nat}

/-- Numbers from `lo` to `hi` that are of foreign characters only. -/
structure Abroad (lo hi : Nat) : Prop where
  beyond : 128 ≤ lo
  valid : hi < 0xD800 ∨ 0xDFFF < lo ∧ hi < 0x110000
  digit : ∀ z ∈ digitZeros, z + 9 < lo ∨ hi < z
  blank : ∀ x ∈ blankRanges, x.2 < lo ∨ hi < x.1
  special : ∀ n ∈ [0x2192, 0x212A, 0x130], n < lo ∨ hi < n

instance (lo hi : Nat) : Decidable (Abroad lo hi) :=
  decidable_of_iff (128 ≤ lo ∧ (hi < 0xD800 ∨ 0xDFFF < lo ∧ hi < 0x110000) ∧
      (∀ z ∈ digitZeros, z + 9 < lo ∨ hi < z) ∧ (∀ x ∈ blankRanges, x.2 < lo ∨ hi < x.1) ∧
      ∀ n ∈ [0x2192, 0x212A, 0x130], n < lo ∨ hi < n)
    ⟨fun ⟨h₁, h₂, h₃, h₄, h₅⟩ => ⟨h₁, h₂, h₃, h₄, h₅⟩, fun h => ⟨h.1, h.2, h.3, h.4, h.5⟩⟩

theorem Abroad.isForeign (h : Abroad lo hi) (hlo : lo ≤ n) (hhi : n ≤ hi) :
    isForeign (Char.ofNat n) = true := by
  have hvalid : n.isValidChar := by
    have := h.valid
    unfold Nat.isValidChar
    omega
  have hcode : (Char.ofNat n).toNat = n := by rw [Char.toNat_ofNat, if_pos hvalid]
  have hne {d : Char} (hd : d.toNat ∈ [0x2192, 0x212A, 0x130]) : Char.ofNat n ≠ d := by
    rintro rfl
    rw [hcode] at hd
    have := h.special n hd
    omega
  rw [foreign_iff, hcode]
  refine ⟨h.beyond.trans hlo, ?_, not_isBlank_of_between (hcode.symm ▸ hlo) (hcode.symm ▸ hhi) h.blank,
    hne (by decide), ?_⟩
  · rw [Bool.eq_false_iff]
    intro hdigit
    obtain ⟨z, hz, hzlo, hzhi⟩ := exists_zero_of_isDigit hdigit
    have := h.digit z hz
    omega
  · simp only [isDisguised, Bool.or_eq_false_iff, decide_eq_false_iff_not]
    exact ⟨hne (by decide), hne (by decide)⟩

theorem runs_abroad : ∀ run ∈ lowerRuns, (run.1 = 0x212A ∧ run.2.1 = 0x212A) ∨
    Abroad (run.1 + run.2.2.2).toNat (run.2.1 + run.2.2.2).toNat := by
  decide +kernel

theorem isDisguised_iff : isDisguised c = true ↔ c.toNat = 0x212A ∨ c.toNat = 0x130 := by
  simp only [isDisguised, Bool.or_eq_true, decide_eq_true_eq, ← Char.toNat_inj]
  rfl

theorem isForeign_lowerCode (h : isForeign c = true) :
    isForeign (Char.ofNat (lowerCode lowerRuns c.toNat)) = true := by
  rcases lowerCode_cases lowerRuns c.toNat with hsame | ⟨run, hrun, hfirst, hlast, hform⟩
  · rwa [hsame, Char.ofNat_toNat]
  · rw [hform]
    rcases runs_abroad run hrun with ⟨hkelvin, hkelvin'⟩ | habroad
    · have hdisguised : isDisguised c = true := isDisguised_iff.mpr (.inl (by omega))
      rw [(foreign_iff.mp h).2.2.2.2] at hdisguised
      cases hdisguised
    · exact habroad.isForeign (by omega) (by omega)

theorem lowerChar_of_foreign (before after : List Char) (h : isForeign c = true) :
    ∃ d, lowerChar before c after = [d] ∧ isForeign d = true := by
  have hf := foreign_iff.mp h
  have hdotted : c.toNat ≠ 0x130 := fun hc =>
    absurd (isDisguised_iff.mpr (.inr hc)) (Bool.eq_false_iff.mp hf.2.2.2.2)
  unfold lowerChar
  rw [if_neg (Nat.not_lt.mpr hf.1), if_neg hdotted]
  split_ifs
  · exact ⟨_, rfl, by decide +kernel⟩
  · exact ⟨_, rfl, by decide +kernel⟩
  · exact ⟨_, rfl, isForeign_lowerCode h⟩

theorem lowerChar_of_not_foreign (hge : 128 ≤ c.toNat) (h : isForeign c = false)
    (hc : isDisguised c = false) : lowerChar before c after = [c] := by
  by_cases hdigit : isDigit c = true
  · exact lowerChar_of_isDigit hdigit
  -- what has no digit's code and is not foreign is a blank or the arrow
  have hrest : isBlank c = true ∨ c = '→' := by
    by_contra hnone
    rw [not_or, Bool.not_eq_true] at hnone
    have hforeign : isForeign c = true :=
      foreign_iff.mpr ⟨hge, Bool.eq_false_iff.mpr hdigit, hnone.1, hnone.2, hc⟩
    rw [h] at hforeign
    cases hforeign
  rcases hrest with hblank | rfl
  · obtain ⟨x, hx, hlo, hhi⟩ := exists_of_inRanges hblank
    have hcode : lowerCode lowerRuns c.toNat = c.toNat := by
      refine lowerCode_of_outside fun run hrun => ?_
      have := (runs_not_blank run hrun x hx).1
      omega
    have hspecial : ∀ x ∈ blankRanges, ∀ n ∈ [0x130, 0x3A3], x.2 < n ∨ n < x.1 := by decide
    have hdotted := hspecial x hx 0x130 (by simp)
    have hsigma := hspecial x hx 0x3A3 (by simp)
    unfold lowerChar
    rw [if_neg (Nat.not_lt.mpr hge), if_neg (by omega : c.toNat ≠ 0x130),
      if_neg (by omega : c.toNat ≠ 0x3A3), hcode, Char.ofNat_toNat]
  · have hcode : lowerCode lowerRuns 0x2192 = 0x2192 := by decide +kernel
    exact congrArg (fun n => [Char.ofNat n]) hcode

theorem toLower_lt (h : c.toNat < 128) : c.toLower.toNat < 128 := by
  have hsmall : ∀ n, n < 128 → (Char.ofNat n).toLower.toNat < 128 := by decide
  simpa only [Char.ofNat_toNat] using hsmall c.toNat h

theorem exists_lowerChar (before after : List Char) (h : isDisguised c = false) :
    ∃ d, lowerChar before c after = [d] ∧ plain d = plain c := by
  rcases lt_or_ge c.toNat 128 with hlt | hge
  · have hplain {d : Char} (hd : d.toNat < 128) : plain d = d.toLower :=
      plain_of_not_foreign (by simp [isForeign, hd])
    refine ⟨c.toLower, if_pos hlt, ?_⟩
    rw [hplain hlt, hplain (toLower_lt hlt), toLower_toLower]
  · cases hc : isForeign c with
    | true =>
      obtain ⟨d, hd, hforeign⟩ := lowerChar_of_foreign before after hc
      exact ⟨d, hd, by rw [plain_of_foreign hc, plain_of_foreign hforeign]⟩
    | false => exact ⟨c, lowerChar_of_not_foreign hge hc h, rfl⟩

theorem map_plain_lower (h : ∀ c ∈ s, isDisguised c = false) : (lower s).map plain = s.map plain := by
  have hfrom (before : List Char) : (lowerFrom before s).map plain = s.map plain := by
    induction s generalizing before with
    | nil => rfl
    | cons c s ih =>
      rw [List.forall_mem_cons] at h
      obtain ⟨d, hd, hplain⟩ := exists_lowerChar before s h.1
      rw [lowerFrom, hd, List.map_append, ih h.2, List.map_cons, hplain]
      rfl
  exact hfrom []

end Lower

section Keywords
variable {c : Char} {s before after : List Char} {k : List Char}

/-- A character as far as keywords tell it from others. -/
def seen (c : Char) : Char := if c.toNat < 128 then c else foreign

theorem seen_of_ge (h : 128 ≤ c.toNat) : seen c = foreign := if_neg (Nat.not_lt.mpr h)

theorem seen_eq_iff {d : Char} (hd : d.toNat < 128) : seen c = d ↔ c = d := by
  rcases lt_or_ge c.toNat 128 with hlt | hge
  · rw [seen, if_pos hlt]
  · have hne {e : Char} (he : 128 ≤ e.toNat) : e ≠ d := by
      rintro rfl
      omega
    rw [seen_of_ge hge]
    exact iff_of_false (hne (foreign_iff.mp isForeign_foreign).1) (hne hge)

theorem isPrefixOf_map_seen (hk : ∀ d ∈ k, d.toNat < 128) (s : List Char) :
    k.isPrefixOf (s.map seen) = k.isPrefixOf s := by
  induction k generalizing s with
  | nil => rfl
  | cons d k ih =>
    rw [List.forall_mem_cons] at hk
    cases s with
    | nil => rfl
    | cons c s =>
      have hsame : (d == seen c) = (d == c) := by
        rw [Bool.eq_iff_iff, beq_iff_eq, beq_iff_eq, eq_comm, seen_eq_iff hk.1, eq_comm]
      rw [List.map_cons, List.isPrefixOf, List.isPrefixOf, hsame, ih hk.2]

theorem occursIn_map_seen (hk : ∀ d ∈ k, d.toNat < 128) (s : List Char) :
    occursIn k (s.map seen) = occursIn k s := by
  induction s with
  | nil => rfl
  | cons c s ih =>
    rw [List.map_cons, occursIn, ← List.map_cons, isPrefixOf_map_seen hk, ih, occursIn]

/-- Only the sigma looks at its neighbours. -/
theorem lowerChar_alone (h : c.toNat ≠ 0x3A3) : lowerChar before c after = lowerChar [] c [] := by
  simp only [lowerChar, if_neg h]

theorem seen_of_foreign (h : isForeign c = true) :
    (lowerChar before c after).map seen = [foreign] := by
  obtain ⟨d, hd, hforeign⟩ := lowerChar_of_foreign before after h
  rw [hd, List.map_singleton, seen_of_ge (foreign_iff.mp hforeign).1]

theorem seen_alone (before after : List Char) (c : Char) :
    (lowerChar before c after).map seen = (lowerChar [] c []).map seen := by
  by_cases hc : c.toNat = 0x3A3
  · have hsigma : isForeign (Char.ofNat 0x3A3) = true := by decide +kernel
    rw [← hc, Char.ofNat_toNat] at hsigma
    rw [seen_of_foreign hsigma, seen_of_foreign hsigma]
  · rw [lowerChar_alone hc]

theorem seen_plain (c : Char) :
    (lowerChar [] (plain c) []).map seen = (lowerChar [] c []).map seen := by
  cases hc : isForeign c with
  | true => rw [plain_of_foreign hc, seen_of_foreign isForeign_foreign, seen_of_foreign hc]
  | false =>
    rw [plain_of_not_foreign hc]
    rcases lt_or_ge c.toNat 128 with hlt | hge
    · rw [lowerChar, if_pos (toLower_lt hlt), toLower_toLower, lowerChar, if_pos hlt]
    · rw [toLower_of_ge hge]

theorem map_seen_lower (s : List Char) :
    (lower s).map seen = s.flatMap fun c => (lowerChar [] c []).map seen := by
  have hfrom (before : List Char) :
      (lowerFrom before s).map seen = s.flatMap fun c => (lowerChar [] c []).map seen := by
    induction s generalizing before with
    | nil => rfl
    | cons c s ih => rw [lowerFrom, List.map_append, seen_alone, ih, List.flatMap_cons]
  exact hfrom []

theorem keywords_ascii : ∀ k ∈ keywords, ∀ d ∈ k.1.toList, d.toNat < 128 := by simp [keywords]

theorem keyword?_plain (s : List Char) : keyword? (s.map plain) = keyword? s := by
  have hseen : (lower (s.map plain)).map seen = (lower s).map seen := by
    rw [map_seen_lower, map_seen_lower, List.flatMap_map]
    exact congrArg s.flatMap (funext seen_plain)
  have hsame : ∀ k ∈ keywords,
      occursIn k.1.toList (lower (s.map plain)) = occursIn k.1.toList (lower s) := by
    intro k hk
    rw [← occursIn_map_seen (keywords_ascii k hk), hseen, occursIn_map_seen (keywords_ascii k hk)]
  exact congrArg (Option.map Prod.snd) (List.find?_congr hsame)

end Keywords

end GuildCards.Effect
