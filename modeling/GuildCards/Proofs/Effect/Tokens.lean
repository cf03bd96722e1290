import Mathlib
import GuildCards.Proofs.Effect.Joined

/-!
Tokens lose nothing and are local. They stand one behind the other, and every character that is no blank
is in exactly one of them; numbers are the longest runs of digits, and periods the characters for one,
whatever stands around them. A part that is cut out of a text along tokens has just these tokens.
-/
namespace GuildCards.Effect
open Text

section Spelling
variable {c d : Char} {r w s : List Char} {kind : TokenKind} {pos : Nat} {t : Token}

/-- How the tokens of a kind are written. -/
inductive Spelled : TokenKind → List Char → Prop where
  | arrow : Spelled .arrow ['→']
  | tip : Spelled .arrow ['-', '>']
  | number {w : List Char} (digits : ∀ c ∈ w, isDigit c = true) : Spelled .number w
  | word {w : List Char} (letters : ∀ c ∈ w, isLetter c = true ∨ isJoiner c = true) :
    Spelled .word w
  | period : Spelled .period ['.']
  | comma : Spelled .comma [',']
  | other {c : Char} (digit : isDigit c = false) (period : c ≠ '.') : Spelled .other [c]

theorem spelled_lexeme (h : (lexeme c r).1 = some kind) :
    Spelled kind (c :: r.take (lexeme c r).2) := by
  unfold lexeme at h ⊢
  split_ifs at h ⊢ with h₁ h₂ h₃ h₄ h₅ h₆ h₇ <;> obtain rfl := Option.some.inj h
  · exact h₁ ▸ .arrow
  · obtain ⟨rfl, hr⟩ : c = '-' ∧ r.head? = some '>' := by simpa using h₂
    obtain ⟨r', rfl⟩ := List.head?_eq_some_iff.mp hr
    exact .tip
  · exact .number (List.forall_mem_cons.mpr ⟨h₃, runOf_members r⟩)
  · exact .word (List.forall_mem_cons.mpr ⟨.inl h₄, wordRun_letters r⟩)
  · exact h₅ ▸ .period
  · exact h₆ ▸ .comma
  · exact .other (Bool.eq_false_iff.mpr h₃) h₅

theorem spelled_token (h : t ∈ scanFrom pos s) : Spelled t.kind t.text := by
  obtain ⟨-, c, r, -, hk, htext⟩ := exists_lexeme h
  exact htext ▸ spelled_lexeme hk

theorem isDigit_of_isNumber (ht : t ∈ scanFrom pos s) (h : t.isNumber = true) :
    ∀ c ∈ t.text, isDigit c = true := by
  have hkind : t.kind = .number := by simpa [Token.isNumber] using h
  have hspelled := spelled_token ht
  rw [hkind] at hspelled
  cases hspelled with
  | number digits => exact digits

theorem text_of_isPeriod (ht : t ∈ scanFrom pos s) (h : t.isPeriod = true) : t.text = ['.'] := by
  have hkind : t.kind = .period := by simpa [Token.isPeriod] using h
  have hspelled := spelled_token ht
  rw [hkind] at hspelled
  generalize t.text = w at hspelled
  cases hspelled
  rfl

theorem Spelled.number_of_digit (h : Spelled kind w) (hd : d ∈ w) (hdigit : isDigit d = true) :
    kind = .number := by
  have apart {c : Char} (hc : d = c) (hnot : isDigit c = false) : False := by
    rw [← hc, hdigit] at hnot
    cases hnot
  cases h with
  | number digits => rfl
  | arrow => exact (apart (List.mem_singleton.mp hd) (by decide)).elim
  | tip => exact ((List.mem_pair.mp hd).elim (apart · (by decide)) (apart · (by decide))).elim
  | period => exact (apart (List.mem_singleton.mp hd) (by decide)).elim
  | comma => exact (apart (List.mem_singleton.mp hd) (by decide)).elim
  | other digit period => exact (apart (List.mem_singleton.mp hd) digit).elim
  | word letters =>
    rcases letters d hd with hletter | hjoiner
    · rw [not_isLetter_of_isDigit hdigit] at hletter
      cases hletter
    · simp only [isJoiner, Bool.or_eq_true, decide_eq_true_eq] at hjoiner
      exact (hjoiner.elim (apart · (by decide)) (apart · (by decide))).elim

theorem Spelled.period_of_mem (h : Spelled kind w) (hd : '.' ∈ w) : kind = .period ∧ w = ['.'] := by
  cases h with
  | period => exact ⟨rfl, rfl⟩
  | arrow => exact absurd hd (by decide)
  | tip => exact absurd hd (by decide)
  | comma => exact absurd hd (by decide)
  | number digits => exact absurd (digits '.' hd) (by decide)
  | word letters => exact absurd (letters '.' hd) (by decide)
  | other digit period => exact absurd (List.mem_singleton.mp hd).symm period

end Spelling

section Places
variable {s : List Char} {pos i j : Nat} {a b t u : Token} {c : Char}

theorem ordered_scanFrom (pos : Nat) (s : List Char) :
    (scanFrom pos s).Pairwise fun a b => a.stop ≤ b.start := by
  induction pos, s using scan_steps with
  | nil pos => simp [scanFrom]
  | blank pos d r hd ih =>
    rw [scanFrom_of_blank hd]
    exact ih
  | token pos d r kind hd hk ih =>
    rw [scanFrom_token hk, List.pairwise_cons]
    refine ⟨fun t ht => ?_, ih⟩
    rw [stop_lexeme]
    exact (scanFrom_text ht).1

theorem token_place (h : t ∈ scan s) :
    t.start < t.stop ∧ t.stop ≤ s.length ∧ t.text = s.extract t.start t.stop := by
  obtain ⟨-, hprefix, hne, -⟩ := scanFrom_text h
  have hpos := List.length_pos_iff.mpr hne
  have hlength : t.stop - t.start = t.text.length := Nat.add_sub_cancel_left ..
  refine ⟨Nat.lt_add_of_pos_right hpos, within_scan s t h, ?_⟩
  rw [List.extract, hlength]
  exact List.prefix_iff_eq_take.mp hprefix

theorem mem_text (h : t ∈ scan s) (hstart : t.start ≤ i) (hstop : i < t.stop)
    (hc : s[i]? = some c) : c ∈ t.text := by
  obtain ⟨k, rfl⟩ := Nat.exists_eq_add_of_le hstart
  have hk : k < t.stop - t.start := by omega
  have hget : (s.extract t.start t.stop)[k]? = some c := by
    rw [List.extract, List.getElem?_take_of_lt hk, List.getElem?_drop, hc]
  rw [(token_place h).2.2]
  exact List.mem_of_getElem? hget

theorem exists_token (hc : s[i]? = some c) (hblank : isBlank c = false) :
    ∃ t ∈ scanFrom pos s, t.start ≤ pos + i ∧ pos + i < t.stop := by
  induction pos, s using scan_steps generalizing i with
  | nil pos => simp at hc
  | blank pos d r hd ih =>
    rw [scanFrom_of_blank hd]
    cases i with
    | zero =>
      obtain rfl : d = c := by simpa using hc
      rw [hd] at hblank
      cases hblank
    | succ i =>
      obtain ⟨t, ht, hplace⟩ := ih hc
      exact ⟨t, ht, by omega⟩
  | token pos d r kind hd hk ih =>
    rw [scanFrom_token hk]
    by_cases hi : i < (lexeme d r).2 + 1
    · refine ⟨_, List.mem_cons_self, Nat.le_add_right .., ?_⟩
      rw [stop_lexeme]
      omega
    · obtain ⟨k, rfl⟩ := Nat.exists_eq_add_of_le (not_lt.mp hi)
      have hrest : (r.drop (lexeme d r).2)[k]? = some c := by
        rwa [List.getElem?_drop, ← List.getElem?_cons_succ (a := d), Nat.add_right_comm]
      obtain ⟨t, ht, hplace⟩ := ih hrest
      exact ⟨t, List.mem_cons_of_mem _ ht, by omega⟩

theorem apart_of_ne (ht : t ∈ scan s) (hu : u ∈ scan s) (hne : t ≠ u) :
    t.stop ≤ u.start ∨ u.stop ≤ t.start := by
  have : Std.Symm fun a b : Token => a.stop ≤ b.start ∨ b.stop ≤ a.start := ⟨fun _ _ => Or.symm⟩
  have hpairs : (scan s).Pairwise fun a b => a.stop ≤ b.start ∨ b.stop ≤ a.start :=
    (ordered_scanFrom 0 s).imp Or.inl
  exact hpairs.forall ht hu hne

theorem existsUnique_token (hc : s[i]? = some c) (hblank : isBlank c = false) :
    ∃! t, t ∈ scan s ∧ t.start ≤ i ∧ i < t.stop := by
  obtain ⟨t, ht, hplace⟩ := exists_token hc hblank
  rw [Nat.zero_add] at hplace
  refine ⟨t, ⟨ht, hplace⟩, fun u hu => ?_⟩
  by_contra hne
  have := apart_of_ne hu.1 ht hne
  omega

end Places

section Runs
variable {p : Char → Bool} {s : List Char} {i j i' j' k : Nat} {t : Token} {c : Char}

/-- The characters from one place to another are all of a class, and those beside them are not. -/
structure MaximalRun (p : Char → Bool) (s : List Char) (i j : Nat) : Prop where
  nonempty : i < j
  within : j ≤ s.length
  members : ∀ k c, i ≤ k → k < j → s[k]? = some c → p c = true
  before : ∀ k c, k + 1 = i → s[k]? = some c → p c = false
  after : ∀ c, s[j]? = some c → p c = false

namespace MaximalRun

theorem start_le (h : MaximalRun p s i j) (h' : MaximalRun p s i' j') (hlt : i < j') : i ≤ i' := by
  by_contra hgt
  obtain ⟨k, rfl⟩ := Nat.exists_eq_add_one_of_ne_zero (n := i) (by omega)
  have hk : k < s.length := by
    have := h'.within
    omega
  have hget := List.getElem?_eq_getElem hk
  have hin := h'.members k _ (by omega) (by omega) hget
  rw [h.before k _ rfl hget] at hin
  cases hin

theorem stop_le (h : MaximalRun p s i j) (h' : MaximalRun p s i' j') (hlt : i ≤ j') : j ≤ j' := by
  by_contra hgt
  have hk : j' < s.length := by
    have := h.within
    omega
  have hget := List.getElem?_eq_getElem hk
  have hin := h.members j' _ hlt (by omega) hget
  rw [h'.after _ hget] at hin
  cases hin

theorem eq_of_shared (h : MaximalRun p s i j) (h' : MaximalRun p s i' j') (hi : i ≤ k) (hj : k < j)
    (hi' : i' ≤ k) (hj' : k < j') : i = i' ∧ j = j' :=
  ⟨(h.start_le h' (by omega)).antisymm (h'.start_le h (by omega)),
    (h.stop_le h' (by omega)).antisymm (h'.stop_le h (by omega))⟩

end MaximalRun

theorem not_of_getElem?_runOf {r : List Char} (h : r[runOf p r]? = some c) : p c = false := by
  induction r with
  | nil => simp at h
  | cons a r ih =>
    cases ha : p a with
    | true =>
      rw [runOf_cons_pos ha, List.getElem?_cons_succ] at h
      exact ih h
    | false =>
      rw [runOf_cons_neg ha, List.getElem?_cons_zero] at h
      exact Option.some.inj h ▸ ha

theorem not_isDigit_after (h : t ∈ scan s) (hnumber : t.isNumber = true) (hc : s[t.stop]? = some c) :
    isDigit c = false := by
  obtain ⟨-, d, r, hs, hk, htext⟩ := exists_lexeme h
  have hkind : t.kind = .number := by simpa [Token.isNumber] using hnumber
  have hrun : (lexeme d r).2 = runOf isDigit r := by
    rw [hkind] at hk
    unfold lexeme at hk ⊢
    split_ifs at hk ⊢ <;> first | rfl | cases hk
  have hstop : t.stop = t.start + ((lexeme d r).2 + 1) := by
    rw [← stop_lexeme t.kind d r t.start, ← htext]
  rw [hstop, ← List.getElem?_drop, ← Nat.sub_zero t.start, hs, List.getElem?_cons_succ, hrun] at hc
  exact not_of_getElem?_runOf hc

theorem isNumber_of_digit (h : t ∈ scan s) (hc : c ∈ t.text) (hdigit : isDigit c = true) :
    t.isNumber = true := by
  rw [Token.isNumber, (spelled_token h).number_of_digit hc hdigit]
  rfl

theorem maximalRun_number (h : t ∈ scan s) (hnumber : t.isNumber = true) :
    MaximalRun isDigit s t.start t.stop := by
  have digits := isDigit_of_isNumber h hnumber
  obtain ⟨hlt, hle, -⟩ := token_place h
  refine ⟨hlt, hle, fun k c hi hj hc => digits c (mem_text h hi hj hc), fun k c hk hc => ?_,
    fun c hc => not_isDigit_after h hnumber hc⟩
  rw [Bool.eq_false_iff]
  intro hdigit
  -- a digit just before would be in a number that ends where this one begins
  obtain ⟨u, ⟨hu, hstart, hstop⟩, -⟩ := existsUnique_token hc (not_isBlank_of_isDigit hdigit)
  have hne : u ≠ t := by
    rintro rfl
    omega
  have hends : u.stop = t.start := by
    have := apart_of_ne hu h hne
    omega
  have hfirst : t.start < s.length := by omega
  have hget := List.getElem?_eq_getElem hfirst
  have hnot := not_isDigit_after hu (isNumber_of_digit hu (mem_text hu hstart hstop hc) hdigit)
    (by rw [hends]; exact hget)
  rw [digits _ (mem_text h le_rfl hlt hget)] at hnot
  cases hnot

theorem number_iff_maximalRun : (∃ t ∈ scan s, t.isNumber = true ∧ t.start = i ∧ t.stop = j) ↔
    MaximalRun isDigit s i j := by
  constructor
  · rintro ⟨t, ht, hnumber, rfl, rfl⟩
    exact maximalRun_number ht hnumber
  · intro h
    have hget := List.getElem?_eq_getElem (h.nonempty.trans_le h.within)
    have hdigit := h.members i _ le_rfl h.nonempty hget
    obtain ⟨t, ⟨ht, hstart, hstop⟩, -⟩ := existsUnique_token hget (not_isBlank_of_isDigit hdigit)
    have hnumber := isNumber_of_digit ht (mem_text ht hstart hstop hget) hdigit
    obtain ⟨hi, hj⟩ :=
      (maximalRun_number ht hnumber).eq_of_shared h hstart hstop le_rfl h.nonempty
    exact ⟨t, ht, hnumber, hi, hj⟩

theorem period_iff : (∃ t ∈ scan s, t.isPeriod = true ∧ t.start = i ∧ t.stop = j) ↔
    s[i]? = some '.' ∧ j = i + 1 := by
  have hstop {t : Token} (htext : t.text = ['.']) : t.stop = t.start + 1 := by
    rw [Token.stop, htext]
    rfl
  constructor
  · rintro ⟨t, ht, hperiod, rfl, rfl⟩
    have htext := text_of_isPeriod ht hperiod
    obtain ⟨hlt, hle, -⟩ := token_place ht
    have hget := List.getElem?_eq_getElem (hlt.trans_le hle)
    have hmem := mem_text ht le_rfl hlt hget
    rw [htext, List.mem_singleton] at hmem
    exact ⟨hmem ▸ hget, hstop htext⟩
  · rintro ⟨hget, rfl⟩
    obtain ⟨t, ⟨ht, hi, hj⟩, -⟩ := existsUnique_token hget (by decide)
    obtain ⟨hkind, htext⟩ := (spelled_token ht).period_of_mem (mem_text ht hi hj hget)
    have := hstop htext
    exact ⟨t, ht, by rw [Token.isPeriod, hkind]; rfl, by omega, by omega⟩

end Runs

section Cuts
variable {s : List Char} {i j : Nat} {a b : Token}

theorem scan_extract (hij : i ≤ j) (ha : (scan s)[i]? = some a) (hb : (scan s)[j]? = some b) :
    (scan (s.extract a.start b.stop)).map (Token.shift a.start) = (scan s).extract i (j + 1) := by
  have hj : j < (scan s).length := (List.getElem?_eq_some_iff.mp hb).1
  have hsplit : scan s = (scan s).take i ++ (scan s).extract i (j + 1) ++ (scan s).drop (j + 1) := by
    have hdrop : (scan s).drop (j + 1) = ((scan s).drop i).drop (j + 1 - i) := by
      rw [List.drop_drop, Nat.add_sub_cancel' (by omega)]
    rw [hdrop, List.append_assoc, List.extract, List.take_append_drop, List.take_append_drop]
  have hfirst : ((scan s).extract i (j + 1)).head? = some a := by
    rw [List.extract, List.head?_take, if_neg (by omega), List.head?_drop, ha]
  have hlast : ((scan s).extract i (j + 1)).getLast? = some b := by
    have hlength : (j + 1 - i) - 1 = j - i := by omega
    rw [List.extract, List.getLast?_eq_getElem?, List.length_take_of_le (by simp; omega), hlength,
      List.getElem?_take_of_lt (by omega), List.getElem?_drop, Nat.add_sub_cancel' hij, hb]
  exact scan_piece hsplit hfirst hlast

end Cuts

/-- Scanning loses nothing and is local. The tokens of a text stand one behind the other, each the part
of the text between its ends, not empty and without blanks; every character that is no blank is in
exactly one token; the numbers are the longest runs of digits, and the periods the characters for a
period; and the part of the text from one token to a later one has the tokens from the one to the other,
each as far from its beginning. -/
theorem tokens_lossless (s : List Char) :
    (scan s).Pairwise (fun a b => a.stop ≤ b.start) ∧
    (∀ t ∈ scan s, t.start < t.stop ∧ t.stop ≤ s.length ∧ t.text = s.extract t.start t.stop ∧
      ∀ c ∈ t.text, isBlank c = false) ∧
    (∀ i c, s[i]? = some c → isBlank c = false →
      ∃! t, t ∈ scan s ∧ t.start ≤ i ∧ i < t.stop) ∧
    (∀ i j, (∃ t ∈ scan s, t.isNumber = true ∧ t.start = i ∧ t.stop = j) ↔
      MaximalRun isDigit s i j) ∧
    (∀ i j, (∃ t ∈ scan s, t.isPeriod = true ∧ t.start = i ∧ t.stop = j) ↔
      s[i]? = some '.' ∧ j = i + 1) ∧
    ∀ i j a b, i ≤ j → (scan s)[i]? = some a → (scan s)[j]? = some b →
      (scan (s.extract a.start b.stop)).map (Token.shift a.start) = (scan s).extract i (j + 1) := by
  refine ⟨ordered_scanFrom 0 s, fun t ht => ?_, fun _ _ => existsUnique_token,
    fun _ _ => number_iff_maximalRun, fun _ _ => period_iff, fun _ _ _ _ => scan_extract⟩
  obtain ⟨hlt, hle, htext⟩ := token_place ht
  exact ⟨hlt, hle, htext, (scanFrom_text ht).2.2.2⟩

/-- Two numbers with a period between them are cut out of a text, and so are their three tokens. -/
theorem tokens_lossless_sample :
    let s := " Pay 12.5→ a-b".toList
    let a : Token := ⟨.number, "12".toList, 5⟩
    let b : Token := ⟨.number, "5".toList, 8⟩
    1 ≤ 3 ∧ (scan s)[1]? = some a ∧ (scan s)[3]? = some b ∧
      s.extract a.start b.stop = "12.5".toList ∧
      (scan "12.5".toList).map (Token.shift 5) = (scan s).extract 1 4 := by
  intro s a b
  have ha : (scan s)[1]? = some a := by decide +kernel
  have hb : (scan s)[3]? = some b := by decide +kernel
  obtain ⟨-, -, -, -, -, hcut⟩ := tokens_lossless s
  exact ⟨by decide, ha, hb, by decide, hcut 1 3 a b (by decide) ha hb⟩

end GuildCards.Effect
