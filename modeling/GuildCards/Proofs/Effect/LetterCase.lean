import Mathlib
import GuildCards.Proofs.Effect.Joined

/-!
Letter case. No class of characters that tokens are made of tells a capital from its small letter, so
a text in lower case has the tokens of the text, each in lower case. The lower case of a text of ASCII
characters and digits is that of its characters one by one.
-/
namespace GuildCards.Effect
open Text

section Characters
variable {c d : Char}

theorem not_isUpper_of_ge (h : 128 ≤ c.toNat) : ¬c.isUpper = true := by
  rw [Char.isUpper, decide_eq_true_eq]
  rintro ⟨-, hle⟩
  have hZ : c.toNat ≤ 90 := UInt32.le_iff_toNat_le.mp hle
  omega

/-- Only ASCII capitals have a lower-case form of their own, so only they need a check. -/
theorem apply_toLower {α : Type} {p : Char → α}
    (h : ∀ n, n < 128 → p (Char.ofNat n).toLower = p (Char.ofNat n)) (c : Char) :
    p c.toLower = p c := by
  rcases lt_or_ge c.toNat 128 with hlt | hge
  · simpa only [Char.ofNat_toNat] using h c.toNat hlt
  · rw [Char.toLower_eq_of_not_isUpper (not_isUpper_of_ge hge)]

@[simp] theorem isLetter_toLower (c : Char) : isLetter c.toLower = isLetter c :=
  apply_toLower (by decide) c

theorem toLower_toLower (c : Char) : c.toLower.toLower = c.toLower :=
  apply_toLower (by decide) c

theorem isLetter_of_isUpper (h : c.isUpper = true) : isLetter c = true := by
  rw [Char.isUpper, decide_eq_true_eq] at h
  rw [isLetter, Bool.or_eq_true, Bool.and_eq_true, Bool.and_eq_true]
  exact .inr ⟨decide_eq_true h.1, decide_eq_true h.2⟩

theorem toLower_of_not_isLetter (h : isLetter c = false) : c.toLower = c := by
  apply Char.toLower_eq_of_not_isUpper
  intro hupper
  rw [isLetter_of_isUpper hupper] at h
  cases h

theorem class_toLower {p : Char → Bool} (hp : ∀ c, isLetter c = true → p c = false) (c : Char) :
    p c.toLower = p c := by
  cases hc : isLetter c with
  | false => rw [toLower_of_not_isLetter hc]
  | true => rw [hp c hc, hp c.toLower ((isLetter_toLower c).trans hc)]

@[simp] theorem isDigit_toLower (c : Char) : isDigit c.toLower = isDigit c :=
  class_toLower (fun _ => excluded not_isLetter_of_isDigit) c

@[simp] theorem isBlank_toLower (c : Char) : isBlank c.toLower = isBlank c :=
  class_toLower (fun _ => not_isBlank_of_isLetter) c

theorem toLower_eq_iff (hd : isLetter d = false) : c.toLower = d ↔ c = d := by
  constructor
  · rintro rfl
    rw [isLetter_toLower] at hd
    exact (toLower_of_not_isLetter hd).symm
  · rintro rfl
    exact toLower_of_not_isLetter hd

end Characters

section Tokens
variable {c : Char} {r : List Char}

def Token.lowered (t : Token) : Token := { t with text := t.text.map Char.toLower }

@[simp] theorem isWord_lowered (w : String) (t : Token) : t.lowered.isWord w = t.isWord w := by
  have htwice : Char.toLower ∘ Char.toLower = Char.toLower := funext toLower_toLower
  rw [Token.isWord, Token.lowered, List.map_map, htwice, Token.isWord]

theorem runOf_map {p : Char → Bool} {f : Char → Char} (hp : ∀ c, p (f c) = p c) :
    runOf p (r.map f) = runOf p r := by
  have hsame : p ∘ f = p := funext hp
  rw [runOf, List.takeWhile_map, hsame, List.length_map, runOf]

theorem signs_not_letters : ∀ d ∈ ['→', '-', '\'', '>', '.', ','], isLetter d = false := by
  simp [isLetter]

/-- The characters are replaced by others, each of the classes of the one it stands for. -/
structure KeepsClasses (f : Char → Char) : Prop where
  digit : ∀ c, isDigit (f c) = isDigit c
  letter : ∀ c, isLetter (f c) = isLetter c
  blank : ∀ c, isBlank (f c) = isBlank c
  sign : ∀ c, ∀ d ∈ ['→', '-', '\'', '>', '.', ','], f c = d ↔ c = d

theorem keepsClasses_toLower : KeepsClasses Char.toLower where
  digit := isDigit_toLower
  letter := isLetter_toLower
  blank := isBlank_toLower
  sign _ _ hd := toLower_eq_iff (signs_not_letters _ hd)

def Token.mapped (f : Char → Char) (t : Token) : Token := { t with text := t.text.map f }

section Replaced
variable {f : Char → Char} (hf : KeepsClasses f)
include hf

theorem KeepsClasses.joiner (c : Char) : isJoiner (f c) = isJoiner c := by
  simp only [isJoiner, hf.sign c '\'' (by simp), hf.sign c '-' (by simp)]

theorem wordRun_map (r : List Char) : wordRun (r.map f) = wordRun r := by
  fun_induction wordRun r <;> simp_all [wordRun, hf.letter, hf.joiner]

theorem lexeme_map (c : Char) (r : List Char) : lexeme (f c) (r.map f) = lexeme c r := by
  have hhead : (r.map f).head? = some '>' ↔ r.head? = some '>' := by
    cases r with
    | nil => rfl
    | cons d r => simp [hf.sign d '>' (by simp)]
  simp only [lexeme, hhead, hf.digit, hf.letter, hf.blank, runOf_map hf.digit, runOf_map hf.blank,
    wordRun_map hf, hf.sign c '→' (by simp), hf.sign c '-' (by simp), hf.sign c '.' (by simp),
    hf.sign c ',' (by simp)]

theorem scanFrom_map (pos : Nat) (s : List Char) :
    scanFrom pos (s.map f) = (scanFrom pos s).map (Token.mapped f) := by
  induction pos, s using scan_induction with
  | nil pos => simp [scanFrom]
  | blank pos c r hk ih =>
    rw [List.map_cons, scanFrom_blank (lexeme_map hf c r ▸ hk), lexeme_map hf, ← List.map_drop, ih,
      scanFrom_blank hk]
  | token pos c r kind hk ih =>
    rw [List.map_cons, scanFrom_token (lexeme_map hf c r ▸ hk), lexeme_map hf, ← List.map_drop, ih,
      scanFrom_token hk, ← List.map_take]
    rfl

theorem scan_map (s : List Char) : scan (s.map f) = (scan s).map (Token.mapped f) :=
  scanFrom_map hf 0 s

end Replaced

theorem scan_map_toLower (s : List Char) : scan (s.map Char.toLower) = (scan s).map Token.lowered :=
  scan_map keepsClasses_toLower s

end Tokens

section Lower
variable {c : Char} {s before after : List Char}

theorem lowerCode_of_outside {runs : List (Nat × Nat × Nat × Int)} {n : Nat}
    (h : ∀ run ∈ runs, run.2.1 < n ∨ n < run.1) : lowerCode runs n = n := by
  induction runs with
  | nil => rfl
  | cons run runs ih =>
    obtain ⟨first, last, step, gap⟩ := run
    rw [List.forall_mem_cons] at h
    rw [lowerCode, ih h.2]
    rcases h.1 with hlast | hfirst
    · have hout : (decide (n ≤ last) && (n - first) % step == 0) = false := by
        rw [decide_eq_false (Nat.not_le.mpr hlast), Bool.false_and]
      rw [hout, if_neg Bool.false_ne_true, ite_self]
    · exact if_pos hfirst

theorem lowerChar_of_isDigit (h : isDigit c = true) : lowerChar before c after = [c] := by
  have hruns : (digitZeros.all fun z => lowerRuns.all fun run =>
      run.2.1.blt z || (z + 9).blt run.1) = true := by decide +kernel
  have hspecial : ∀ z ∈ digitZeros, ∀ n ∈ [0x130, 0x3A3], n < z ∨ z + 9 < n := by decide
  obtain ⟨z, hz, hlo, hhi⟩ := exists_zero_of_isDigit h
  have hsame : c.toLower = c := toLower_of_not_isLetter (not_isLetter_of_isDigit h)
  have hcode : lowerCode lowerRuns c.toNat = c.toNat := by
    refine lowerCode_of_outside fun run hrun => ?_
    have hrun := List.all_eq_true.mp (List.all_eq_true.mp hruns z hz) run hrun
    rw [Bool.or_eq_true, Nat.blt_eq, Nat.blt_eq] at hrun
    rcases hrun with hlast | hfirst
    · exact .inl (hlast.trans_le hlo)
    · exact .inr (hhi.trans_lt hfirst)
  have hdotted := hspecial z hz 0x130 (by simp)
  have hsigma := hspecial z hz 0x3A3 (by simp)
  unfold lowerChar
  rw [hsame, hcode, Char.ofNat_toNat, if_neg (by omega : c.toNat ≠ 0x130),
    if_neg (by omega : c.toNat ≠ 0x3A3), ite_self]

theorem lower_eq_map (h : ∀ c ∈ s, c.toNat < 128 ∨ isDigit c = true) :
    lower s = s.map Char.toLower := by
  have hfrom (before : List Char) : lowerFrom before s = s.map Char.toLower := by
    induction s generalizing before with
    | nil => rfl
    | cons c s ih =>
      rw [List.forall_mem_cons] at h
      have hchar : lowerChar before c s = [c.toLower] := by
        rcases h.1 with hascii | hdigit
        · exact if_pos hascii
        · rw [lowerChar_of_isDigit hdigit, toLower_of_not_isLetter (not_isLetter_of_isDigit hdigit)]
      rw [lowerFrom, hchar, ih h.2]
      rfl
  exact hfrom []

end Lower

end GuildCards.Effect
