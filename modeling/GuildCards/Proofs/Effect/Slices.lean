import Mathlib
import GuildCards.Effect.Compile

/-!
Tokens are local. A part of a text that begins where a token begins and ends where a token ends has
the tokens that stand there, each as far from the beginning of the part; and no token begins or ends
with a blank, so such a part has none to strip.
-/
namespace GuildCards.Effect
open Text

def Token.shift (k : Nat) (t : Token) : Token := { t with start := t.start + k }

@[simp] theorem Token.shift_text (k : Nat) (t : Token) : (t.shift k).text = t.text := rfl

@[simp] theorem Token.shift_start (k : Nat) (t : Token) : (t.shift k).start = t.start + k := rfl

@[simp] theorem Token.shift_stop (k : Nat) (t : Token) : (t.shift k).stop = t.stop + k :=
  Nat.add_right_comm ..

theorem exists_of_inRanges {rs : List (Nat × Nat)} {n : Nat} (h : inRanges rs n = true) :
    ∃ x ∈ rs, x.1 ≤ n ∧ n ≤ x.2 := by
  induction rs with
  | nil => cases h
  | cons x rs ih =>
    simp only [inRanges, Bool.and_eq_true, Bool.or_eq_true, decide_eq_true_eq] at h
    rcases h with ⟨hlo, hhi | hrest⟩
    · exact ⟨x, List.mem_cons_self, hlo, hhi⟩
    · obtain ⟨y, hy, hn⟩ := ih hrest
      exact ⟨y, List.mem_cons_of_mem x hy, hn⟩

theorem not_isBlank_of_between {c : Char} {lo hi : Nat} (hlo : lo ≤ c.toNat) (hhi : c.toNat ≤ hi)
    (h : ∀ x ∈ blankRanges, x.2 < lo ∨ hi < x.1) : isBlank c = false := by
  rw [Bool.eq_false_iff]
  intro hc
  obtain ⟨x, hx, hxlo, hxhi⟩ := exists_of_inRanges hc
  have := h x hx
  omega

theorem not_isBlank_of_isLetter {c : Char} (h : isLetter c = true) : isBlank c = false := by
  simp only [isLetter, Bool.or_eq_true, Bool.and_eq_true, decide_eq_true_eq, Char.le_def,
    UInt32.le_iff_toNat_le] at h
  rcases h with ⟨hlo, hhi⟩ | ⟨hlo, hhi⟩
  · exact not_isBlank_of_between hlo hhi (by decide)
  · exact not_isBlank_of_between hlo hhi (by decide)

theorem exists_zero_of_isDigit {c : Char} (h : isDigit c = true) :
    ∃ z ∈ digitZeros, z ≤ c.toNat ∧ c.toNat ≤ z + 9 := by
  simp only [isDigit, digitValue?, Option.isSome_map, List.find?_isSome, Bool.and_eq_true,
    decide_eq_true_eq] at h
  obtain ⟨z, hz, hlo, hhi⟩ := h
  exact ⟨z, hz, hlo, Nat.le_of_lt_succ hhi⟩

theorem not_isBlank_of_isDigit {c : Char} (h : isDigit c = true) : isBlank c = false := by
  have hzeros : ∀ z ∈ digitZeros, ∀ x ∈ blankRanges, x.2 < z ∨ z + 9 < x.1 := by decide
  obtain ⟨z, hz, hlo, hhi⟩ := exists_zero_of_isDigit h
  exact not_isBlank_of_between hlo hhi (hzeros z hz)

theorem not_isLetter_of_isDigit {c : Char} (h : isDigit c = true) : isLetter c = false := by
  have hzeros : ∀ z ∈ digitZeros, z + 9 < 0x41 ∨ 0x7A < z := by decide
  obtain ⟨z, hz, hlo, hhi⟩ := exists_zero_of_isDigit h
  have := hzeros z hz
  simp only [isLetter, Bool.or_eq_false_iff, Bool.and_eq_false_iff, decide_eq_false_iff_not,
    Char.le_def, UInt32.le_iff_toNat_le]
  change (¬0x61 ≤ c.toNat ∨ ¬c.toNat ≤ 0x7A) ∧ (¬0x41 ≤ c.toNat ∨ ¬c.toNat ≤ 0x5A)
  omega

theorem not_isBlank_of_isJoiner {c : Char} (h : isJoiner c = true) : isBlank c = false := by
  simp only [isJoiner, Bool.or_eq_true, decide_eq_true_eq] at h
  rcases h with rfl | rfl <;> decide

section Lexemes
variable {c : Char} {r : List Char} {kind : TokenKind} {k : Nat}

theorem wordRun_le (r : List Char) : wordRun r ≤ r.length := by
  fun_induction wordRun r <;> simp_all

theorem runOf_le (p : Char → Bool) (r : List Char) : runOf p r ≤ r.length :=
  (List.takeWhile_sublist p).length_le

theorem runOf_cons_pos {p : Char → Bool} (hc : p c = true) : runOf p (c :: r) = runOf p r + 1 := by
  rw [runOf, List.takeWhile_cons_of_pos hc, List.length_cons, runOf]

theorem runOf_cons_neg {p : Char → Bool} (hc : p c = false) : runOf p (c :: r) = 0 := by
  rw [runOf, List.takeWhile_cons_of_neg (by simp [hc]), List.length_nil]

theorem wordRun_take (h : wordRun r ≤ k) : wordRun (r.take k) = wordRun r := by
  fun_induction wordRun r generalizing k with
  | case1 => simp [wordRun]
  | case2 c hc =>
    obtain ⟨k, rfl⟩ := Nat.exists_eq_add_of_le' h
    simp [wordRun, hc]
  | case3 c hc => cases k <;> simp [wordRun, hc]
  | case4 c d r hc ih =>
    obtain ⟨k, rfl⟩ := Nat.exists_eq_add_of_le' (Nat.le_trans (Nat.le_add_left ..) h)
    have hk := ih (Nat.le_of_succ_le_succ h)
    rw [List.take_succ_cons]
    cases k with
    | zero =>
      have h0 : wordRun (d :: r) = 0 := Nat.le_zero.mp (Nat.le_of_succ_le_succ h)
      simp [wordRun, hc, h0]
    | succ k => simpa [wordRun, hc] using hk
  | case5 c d r hc hj ih =>
    obtain ⟨k, rfl⟩ := Nat.exists_eq_add_of_le' (Nat.le_trans (Nat.le_add_left 2 _) h)
    have hk := ih (Nat.le_of_succ_le_succ (Nat.le_of_succ_le_succ h))
    simpa [wordRun, hc, hj] using hk
  | case6 c d r hc hj =>
    match k with
    | 0 => rfl
    | 1 => simp [wordRun, hc]
    | k + 2 => simp [wordRun, hc, hj]

theorem runOf_take {p : Char → Bool} (h : runOf p r ≤ k) : runOf p (r.take k) = runOf p r := by
  unfold runOf at h ⊢
  rw [← List.take_takeWhile, List.length_take, Nat.min_eq_right h]

theorem lexeme_le (c : Char) (r : List Char) : (lexeme c r).2 ≤ r.length := by
  unfold lexeme
  split_ifs with h₁ h₂
  · exact Nat.zero_le _
  · cases r <;> simp_all
  · exact runOf_le _ _
  · exact wordRun_le _
  all_goals first | exact Nat.zero_le _ | exact runOf_le _ _

/-- A lexeme does not look beyond the character after it. -/
theorem lexeme_take (h : (lexeme c r).2 ≤ k) : lexeme c (r.take k) = lexeme c r := by
  -- only an arrow of two characters is told from what stands behind `c`
  by_cases h₁ : c = '→'
  · simp only [lexeme, if_pos h₁]
  cases h₂ : c = '-' && r.head? = some '>' with
  | true =>
    simp only [lexeme, if_neg h₁, h₂, if_true] at h
    have hhead : (r.take k).head? = r.head? := by rw [List.head?_take, if_neg (by omega)]
    simp only [lexeme, if_neg h₁, hhead, h₂, if_true]
  | false =>
    have h₂' : (decide (c = '-') && decide ((r.take k).head? = some '>')) = false := by
      rw [List.head?_take]
      split
      · simp
      · exact h₂
    simp only [lexeme, if_neg h₁, h₂, h₂', Bool.false_eq_true, if_false] at h ⊢
    by_cases h₃ : isDigit c = true
    · simp only [if_pos h₃] at h ⊢
      rw [runOf_take h]
    by_cases h₄ : isLetter c = true
    · simp only [if_neg h₃, if_pos h₄] at h ⊢
      rw [wordRun_take h]
    simp only [if_neg h₃, if_neg h₄] at h ⊢
    split_ifs at h ⊢
    · rfl
    · rfl
    · rw [runOf_take h]
    · rfl

theorem wordRun_letters (r : List Char) :
    ∀ c ∈ r.take (wordRun r), isLetter c = true ∨ isJoiner c = true := by
  fun_induction wordRun r with
  | case2 c hc => simp [hc]
  | case4 c d r hc ih =>
    rw [List.take_succ_cons, List.forall_mem_cons]
    exact ⟨.inl hc, ih⟩
  | case5 c d r hc hj ih =>
    rw [Bool.and_eq_true] at hj
    rw [List.take_succ_cons, List.take_succ_cons, List.forall_mem_cons, List.forall_mem_cons]
    exact ⟨.inr hj.1, .inl hj.2, ih⟩
  | _ => simp

theorem runOf_members {p : Char → Bool} (r : List Char) : ∀ c ∈ r.take (runOf p r), p c = true := by
  rw [runOf, ← List.prefix_iff_eq_take.mp (List.takeWhile_prefix p)]
  exact List.all_eq_true.mp List.all_takeWhile

theorem lexeme_not_blank (h : (lexeme c r).1 = some kind) :
    ∀ x ∈ c :: r.take (lexeme c r).2, isBlank x = false := by
  unfold lexeme at h ⊢
  split_ifs at h ⊢ with h₁ h₂ h₃ h₄ h₅ h₆ h₇ <;> rw [List.forall_mem_cons]
  · subst h₁
    exact ⟨by decide, by simp⟩
  · obtain ⟨rfl, hr⟩ : c = '-' ∧ r.head? = some '>' := by simpa using h₂
    obtain ⟨r', rfl⟩ := List.head?_eq_some_iff.mp hr
    exact ⟨by decide, by simpa using by decide⟩
  · exact ⟨not_isBlank_of_isDigit h₃, fun x hx => not_isBlank_of_isDigit (runOf_members r x hx)⟩
  · refine ⟨not_isBlank_of_isLetter h₄, fun x hx => ?_⟩
    exact (wordRun_letters r x hx).elim not_isBlank_of_isLetter not_isBlank_of_isJoiner
  · subst h₅
    exact ⟨by decide, by simp⟩
  · subst h₆
    exact ⟨by decide, by simp⟩
  · exact ⟨Bool.eq_false_iff.mpr h₇, by simp⟩

end Lexemes

variable {s : List Char} {pos : Nat} {a b t : Token} {ts pre post : List Token}

theorem scanFrom_blank {c : Char} {r : List Char} (h : (lexeme c r).1 = none) :
    scanFrom pos (c :: r) =
      scanFrom (pos + ((lexeme c r).2 + 1)) (r.drop (lexeme c r).2) := by
  rw [scanFrom, h]

theorem scanFrom_token {c : Char} {r : List Char} {kind : TokenKind}
    (h : (lexeme c r).1 = some kind) :
    scanFrom pos (c :: r) = ⟨kind, c :: r.take (lexeme c r).2, pos⟩ ::
      scanFrom (pos + ((lexeme c r).2 + 1)) (r.drop (lexeme c r).2) := by
  rw [scanFrom, h]

theorem scan_induction {motive : Nat → List Char → Prop} (nil : ∀ pos, motive pos [])
    (blank : ∀ pos c r, (lexeme c r).1 = none →
      motive (pos + ((lexeme c r).2 + 1)) (r.drop (lexeme c r).2) → motive pos (c :: r))
    (token : ∀ pos c r kind, (lexeme c r).1 = some kind →
      motive (pos + ((lexeme c r).2 + 1)) (r.drop (lexeme c r).2) → motive pos (c :: r)) :
    ∀ pos s, motive pos s := scanFrom.induct motive nil blank token

theorem scanFrom_add (pos k : Nat) (s : List Char) :
    scanFrom (pos + k) s = (scanFrom pos s).map (Token.shift k) := by
  induction pos, s using scan_induction with
  | nil pos => simp [scanFrom]
  | blank pos c r h ih =>
    rw [scanFrom_blank h, scanFrom_blank h, ← ih, Nat.add_right_comm]
  | token pos c r kind h ih =>
    rw [scanFrom_token h, scanFrom_token h, List.map_cons, ← ih, Nat.add_right_comm]
    rfl

theorem drop_cons_sub (c : Char) (r : List Char) {n start : Nat} (h : pos + (n + 1) ≤ start) :
    (c :: r).drop (start - pos) = (r.drop n).drop (start - (pos + (n + 1))) := by
  have : start - pos = n + (start - (pos + (n + 1))) + 1 := by omega
  rw [this, List.drop_succ_cons, List.drop_drop]

theorem scanFrom_drop (h : scanFrom pos s = pre ++ a :: post) :
    pos ≤ a.start ∧ scanFrom a.start (s.drop (a.start - pos)) = a :: post := by
  induction pos, s using scan_induction generalizing pre with
  | nil pos => simp [scanFrom] at h
  | blank pos c r hk ih =>
    rw [scanFrom_blank hk] at h
    obtain ⟨hle, hscan⟩ := ih h
    exact ⟨by omega, drop_cons_sub c r hle ▸ hscan⟩
  | token pos c r kind hk ih =>
    cases pre with
    | nil =>
      have ha : a.start = pos := by
        rw [scanFrom_token hk] at h
        rw [← (List.cons.inj h).1]
      rw [ha, Nat.sub_self]
      exact ⟨le_rfl, h⟩
    | cons t pre =>
      rw [scanFrom_token hk] at h
      obtain ⟨hle, hscan⟩ := ih (List.cons.inj h).2
      exact ⟨by omega, drop_cons_sub c r hle ▸ hscan⟩

section Cut
variable {c : Char} {r : List Char} {kind : TokenKind} {stop : Nat}

theorem take_cons_lexeme (hstop : pos + ((lexeme c r).2 + 1) ≤ stop) :
    ∃ m, (c :: r).take (stop - pos) = c :: r.take m ∧ (lexeme c r).2 ≤ m ∧
      lexeme c (r.take m) = lexeme c r ∧
      m - (lexeme c r).2 = stop - (pos + ((lexeme c r).2 + 1)) := by
  have hm : (lexeme c r).2 ≤ stop - pos - 1 := by omega
  have hcons : stop - pos = stop - pos - 1 + 1 := by omega
  refine ⟨stop - pos - 1, ?_, hm, lexeme_take hm, by omega⟩
  rw [hcons, List.take_succ_cons, ← hcons]

theorem scanFrom_take_blank (hk : (lexeme c r).1 = none)
    (hstop : pos + ((lexeme c r).2 + 1) ≤ stop) :
    scanFrom pos ((c :: r).take (stop - pos)) = scanFrom (pos + ((lexeme c r).2 + 1))
      ((r.drop (lexeme c r).2).take (stop - (pos + ((lexeme c r).2 + 1)))) := by
  obtain ⟨m, htake, -, hlex, hrest⟩ := take_cons_lexeme hstop
  rw [htake, scanFrom_blank (hlex ▸ hk), hlex, List.drop_take, hrest]

theorem scanFrom_take_token (hk : (lexeme c r).1 = some kind)
    (hstop : pos + ((lexeme c r).2 + 1) ≤ stop) :
    scanFrom pos ((c :: r).take (stop - pos)) = ⟨kind, c :: r.take (lexeme c r).2, pos⟩ ::
      scanFrom (pos + ((lexeme c r).2 + 1))
        ((r.drop (lexeme c r).2).take (stop - (pos + ((lexeme c r).2 + 1)))) := by
  obtain ⟨m, htake, hm, hlex, hrest⟩ := take_cons_lexeme hstop
  rw [htake, scanFrom_token (hlex ▸ hk), hlex, List.drop_take, hrest, List.take_take,
    Nat.min_eq_left hm]

end Cut

theorem stop_lexeme (kind : TokenKind) (c : Char) (r : List Char) (pos : Nat) :
    Token.stop ⟨kind, c :: r.take (lexeme c r).2, pos⟩ = pos + ((lexeme c r).2 + 1) := by
  rw [Token.stop, List.length_cons, List.length_take_of_le (lexeme_le c r)]

/-- What is scanned up to a token does not depend on what follows it. -/
theorem scanFrom_take (h : scanFrom pos s = pre ++ b :: post) :
    pos < b.stop ∧ scanFrom pos (s.take (b.stop - pos)) = pre ++ [b] := by
  -- by the lexemes of the whole text: `b` ends after each of those before it
  induction pos, s using scan_induction generalizing pre with
  | nil pos => simp [scanFrom] at h
  | blank pos c r hk ih =>
    rw [scanFrom_blank hk] at h
    obtain ⟨hlt, hscan⟩ := ih h
    refine ⟨by omega, ?_⟩
    rw [scanFrom_take_blank hk hlt.le, hscan]
  | token pos c r kind hk ih =>
    rw [scanFrom_token hk] at h
    cases pre with
    | nil =>
      obtain ⟨rfl, -⟩ := List.cons.inj h
      rw [stop_lexeme]
      refine ⟨by omega, ?_⟩
      rw [scanFrom_take_token hk le_rfl, Nat.sub_self, List.take_zero, scanFrom]
      rfl
    | cons t pre =>
      obtain ⟨rfl, hrest⟩ := List.cons.inj h
      obtain ⟨hlt, hscan⟩ := ih hrest
      refine ⟨by omega, ?_⟩
      rw [scanFrom_take_token hk hlt.le, hscan]
      rfl

theorem exists_lexeme (h : t ∈ scanFrom pos s) :
    pos ≤ t.start ∧ ∃ c r, s.drop (t.start - pos) = c :: r ∧
      (lexeme c r).1 = some t.kind ∧ t.text = c :: r.take (lexeme c r).2 := by
  obtain ⟨pre, post, h⟩ := List.append_of_mem h
  obtain ⟨hle, hscan⟩ := scanFrom_drop h
  refine ⟨hle, ?_⟩
  cases hs : s.drop (t.start - pos) with
  | nil => simp [hs, scanFrom] at hscan
  | cons c r =>
    refine ⟨c, r, rfl, ?_⟩
    rw [hs] at hscan
    cases hk : (lexeme c r).1 with
    | none =>
      rw [scanFrom_blank hk] at hscan
      have hnil : scanFrom _ _ = [] ++ t :: post := hscan
      have := (scanFrom_drop hnil).1
      omega
    | some kind =>
      rw [scanFrom_token hk] at hscan
      rw [← (List.cons.inj hscan).1]
      exact ⟨rfl, rfl⟩

theorem scanFrom_text (h : t ∈ scanFrom pos s) :
    pos ≤ t.start ∧ t.text <+: s.drop (t.start - pos) ∧ t.text ≠ [] ∧
      ∀ x ∈ t.text, isBlank x = false := by
  obtain ⟨hle, c, r, hs, hk, htext⟩ := exists_lexeme h
  rw [hs, htext]
  exact ⟨hle, (List.prefix_cons_inj c).mpr (List.take_prefix ..), List.cons_ne_nil _ _,
    lexeme_not_blank hk⟩

theorem exists_ends (h : ts ≠ []) : ∃ a b, ts.head? = some a ∧ ts.getLast? = some b :=
  ⟨_, _, List.head?_eq_some_head h, List.getLast?_eq_some_getLast h⟩

def piece (s : List Char) (a b : Token) : List Char := (s.drop a.start).take (b.stop - a.start)

theorem scan_piece (h : scan s = pre ++ ts ++ post) (ha : ts.head? = some a)
    (hb : ts.getLast? = some b) : (scan (piece s a b)).map (Token.shift a.start) = ts := by
  obtain ⟨us, rfl⟩ := List.head?_eq_some_iff.mp ha
  obtain ⟨vs, hvs⟩ := List.getLast?_eq_some_iff.mp hb
  rw [List.append_assoc] at h
  have hsplit : a :: (us ++ post) = vs ++ b :: post := by
    rw [← List.cons_append, hvs, List.append_assoc]
    rfl
  have hfrom : scanFrom a.start (s.drop a.start) = vs ++ b :: post := hsplit ▸ (scanFrom_drop h).2
  obtain ⟨-, hto⟩ := scanFrom_take hfrom
  rw [scan, ← scanFrom_add, Nat.zero_add, piece, hto, hvs]

theorem strip_eq_self (hfirst : ∀ c ∈ s.head?, isBlank c = false)
    (hlast : ∀ c ∈ s.getLast?, isBlank c = false) : strip s = s := by
  have hdrop (u : List Char) (hu : ∀ c ∈ u.head?, isBlank c = false) : u.dropWhile isBlank = u := by
    cases u with
    | nil => rfl
    | cons c u => exact List.dropWhile_cons_of_neg (by simp [hu c rfl])
  rw [strip, stripBy, hdrop s hfirst, hdrop s.reverse (by rwa [List.head?_reverse]),
    List.reverse_reverse]

theorem piece_tight (h : scan s = pre ++ ts ++ post) (ha : ts.head? = some a)
    (hb : ts.getLast? = some b) : a.text <+: piece s a b ∧ b.text <:+ piece s a b := by
  have hscan := scan_piece h ha hb
  have hmem {t : Token} (ht : t ∈ ts) : ∃ t' ∈ scan (piece s a b), t'.shift a.start = t := by
    rwa [← List.mem_map, hscan]
  constructor
  · obtain ⟨a', ha', heq⟩ := hmem (List.mem_of_head? ha)
    obtain ⟨-, htext, -⟩ := scanFrom_text ha'
    have hstart := congrArg Token.start heq
    have hsame := congrArg Token.text heq
    rw [Token.shift_start, Nat.add_eq_right] at hstart
    rw [Token.shift_text] at hsame
    rwa [hstart, Nat.sub_zero, List.drop_zero, hsame] at htext
  · obtain ⟨b', hb', heq⟩ := hmem (List.mem_of_getLast? hb)
    obtain ⟨-, htext, -⟩ := scanFrom_text hb'
    have hstop := congrArg Token.stop heq
    have hsame := congrArg Token.text heq
    rw [Token.shift_stop] at hstop
    rw [Token.shift_text] at hsame
    -- the last token of the piece ends where the piece ends, so it is the rest of it
    have hlen : (piece s a b).length ≤ b.stop - a.start := List.length_take_le ..
    have hall : b'.text = (piece s a b).drop b'.start := by
      refine htext.eq_of_length_le ?_
      rw [List.length_drop, Nat.sub_zero]
      rw [Token.stop] at hstop
      omega
    rw [← hsame, hall]
    exact List.drop_suffix ..

theorem strip_piece (h : scan s = pre ++ ts ++ post) (ha : ts.head? = some a)
    (hb : ts.getLast? = some b) : strip (piece s a b) = piece s a b ∧ piece s a b ≠ [] := by
  have hmem {t : Token} (ht : t ∈ ts) : t ∈ scan s := by
    rw [h]
    exact List.mem_append_left _ (List.mem_append_right _ ht)
  obtain ⟨-, -, hne, hablank⟩ := scanFrom_text (hmem (List.mem_of_head? ha))
  obtain ⟨-, -, hne', hbblank⟩ := scanFrom_text (hmem (List.mem_of_getLast? hb))
  obtain ⟨hfirst, hlast⟩ := piece_tight h ha hb
  refine ⟨?_, fun hnil => hne (List.prefix_nil.mp (hnil ▸ hfirst))⟩
  apply strip_eq_self
  · intro c hc
    obtain ⟨us, hus⟩ := hfirst
    cases htext : a.text with
    | nil => exact absurd htext hne
    | cons d ds =>
      rw [← hus, htext] at hc
      obtain rfl : d = c := by simpa using hc
      exact hablank d (htext ▸ List.mem_cons_self)
  · intro c hc
    obtain ⟨us, hus⟩ := hlast
    cases htext : b.text.getLast? with
    | none => exact absurd (List.getLast?_eq_none_iff.mp htext) hne'
    | some d =>
      rw [← hus, List.getLast?_append, htext] at hc
      obtain rfl : d = c := by simpa using hc
      exact hbblank d (List.mem_of_getLast? htext)

theorem span_eq_piece (h : scan s = pre ++ ts ++ post) (ha : ts.head? = some a)
    (hb : ts.getLast? = some b) : span s ts = piece s a b := by
  rw [← (strip_piece h ha hb).1]
  simp only [span, ha, hb, piece]

end GuildCards.Effect
