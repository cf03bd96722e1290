import Mathlib
import GuildCards.Proofs.Effect.Recompile

/-!
Tokens of texts that are joined. A blank or a period ends every lexeme before it, so texts with one of
them between have the tokens of each in turn; and to cut a joined text at what joins it gives back
the tokens of its parts, whatever is then calculated from them.
-/
namespace GuildCards.Effect
open Text Number

/-- A character that ends every lexeme before it. -/
structure Breaks (c : Char) : Prop where
  digit : isDigit c = false
  letter : isLetter c = false
  joiner : isJoiner c = false
  tip : c ≠ '>'

theorem breaks_blank : Breaks ' ' := by constructor <;> decide

theorem breaks_period : Breaks '.' := by constructor <;> decide

section Lexemes
variable {c d : Char} {r v : List Char} {kind : TokenKind} {pos : Nat}

theorem excluded {p q : Char → Bool} (h : p c = true → q c = false) (hc : q c = true) :
    p c = false := by
  rw [Bool.eq_false_iff]
  intro hp
  rw [h hp] at hc
  cases hc

theorem runOf_append {p : Char → Bool} (hc : p c = false) : runOf p (r ++ c :: v) = runOf p r := by
  rw [runOf, List.takeWhile_append, List.takeWhile_cons_of_neg (by simp [hc]), List.append_nil]
  split_ifs with hall
  · exact hall.symm
  · rfl

theorem wordRun_append (hc : Breaks c) : wordRun (r ++ c :: v) = wordRun r := by
  have hstop : wordRun (c :: v) = 0 := by
    cases v <;> simp [wordRun, hc.letter, hc.joiner]
  fun_induction wordRun r with
  | case1 => exact hstop
  | case2 d hd => simp [wordRun, hd, hstop]
  | case3 d hd => simp [wordRun, hd, hc.letter]
  | case4 d e r hd ih => simpa [wordRun, hd] using ih
  | case5 d e r hd hj ih => simpa [wordRun, hd, hj] using ih
  | case6 d e r hd hj => simp [wordRun, hd, hj]

theorem lexeme_append (hd : isBlank d = false) (hc : Breaks c) :
    lexeme d (r ++ c :: v) = lexeme d r := by
  have hhead : (decide (d = '-') && decide ((r ++ c :: v).head? = some '>')) =
      (decide (d = '-') && decide (r.head? = some '>')) := by
    cases r with
    | nil => simp [hc.tip]
    | cons e r => rfl
  simp only [lexeme, hhead, runOf_append hc.digit, wordRun_append hc, hd, Bool.false_eq_true,
    if_false]

theorem lexeme_of_blank (hd : isBlank d = true) : lexeme d r = (none, runOf isBlank r) := by
  have hne {e : Char} (he : isBlank e = false) : d ≠ e := ne_of_apply_ne isBlank (by simp [hd, he])
  have hdigit : isDigit d = false := excluded not_isBlank_of_isDigit hd
  have hletter : isLetter d = false := excluded not_isBlank_of_isLetter hd
  have harrow : d ≠ '→' := hne (by decide)
  have hdash : d ≠ '-' := hne (by decide)
  have hperiod : d ≠ '.' := hne (by decide)
  have hcomma : d ≠ ',' := hne (by decide)
  simp [lexeme, harrow, hdash, hdigit, hletter, hperiod, hcomma, hd]

theorem lexeme_isSome (hd : isBlank d = false) : ∃ kind, (lexeme d r).1 = some kind := by
  unfold lexeme
  split_ifs <;> first | exact ⟨_, rfl⟩ | simp_all

theorem scanFrom_drop_blanks (pos : Nat) (r : List Char) :
    scanFrom (pos + runOf isBlank r) (r.drop (runOf isBlank r)) = scanFrom pos r := by
  cases r with
  | nil => rfl
  | cons e r =>
    cases he : isBlank e with
    | true =>
      rw [scanFrom_blank (by rw [lexeme_of_blank he]), lexeme_of_blank he, runOf_cons_pos he,
        List.drop_succ_cons]
    | false => rw [runOf_cons_neg he, List.drop_zero, Nat.add_zero]

theorem scanFrom_of_blank (hd : isBlank d = true) :
    scanFrom pos (d :: r) = scanFrom (pos + 1) r := by
  rw [scanFrom_blank (by rw [lexeme_of_blank hd]), lexeme_of_blank hd,
    ← scanFrom_drop_blanks (pos + 1) r, Nat.add_right_comm]
  rfl

theorem scan_steps {motive : Nat → List Char → Prop} (nil : ∀ pos, motive pos [])
    (blank : ∀ pos d r, isBlank d = true → motive (pos + 1) r → motive pos (d :: r))
    (token : ∀ pos d r kind, isBlank d = false → (lexeme d r).1 = some kind →
      motive (pos + ((lexeme d r).2 + 1)) (r.drop (lexeme d r).2) → motive pos (d :: r))
    (pos : Nat) (s : List Char) : motive pos s := by
  induction hn : s.length using Nat.strong_induction_on generalizing pos s with
  | _ n ih =>
    cases s with
    | nil => exact nil pos
    | cons d r =>
      have hlen : (d :: r).length = r.length + 1 := rfl
      cases hd : isBlank d with
      | true => exact blank pos d r hd (ih _ (by omega) _ _ rfl)
      | false =>
        obtain ⟨kind, hkind⟩ := lexeme_isSome (r := r) hd
        refine token pos d r kind hd hkind (ih _ ?_ _ _ rfl)
        rw [List.length_drop]
        omega

end Lexemes

section Join
variable {c : Char} {u v : List Char} {pos : Nat} {t : Token}

theorem scanFrom_append (hc : Breaks c) (pos : Nat) (u v : List Char) :
    scanFrom pos (u ++ c :: v) = scanFrom pos u ++ scanFrom (pos + u.length) (c :: v) := by
  induction pos, u using scan_steps with
  | nil pos => rw [List.nil_append, scanFrom, List.nil_append, List.length_nil, Nat.add_zero]
  | blank pos d r hd ih =>
    rw [List.cons_append, scanFrom_of_blank hd, ih, scanFrom_of_blank hd, List.length_cons,
      Nat.add_right_comm, Nat.add_assoc]
  | token pos d r kind hd hk ih =>
    have hle := lexeme_le d r
    have hlex := lexeme_append (r := r) (v := v) hd hc
    have hk' : (lexeme d (r ++ c :: v)).1 = some kind := hlex ▸ hk
    rw [List.cons_append, scanFrom_token hk', scanFrom_token hk, hlex, List.take_append_of_le_length hle,
      List.drop_append_of_le_length hle, ih, List.cons_append, List.length_drop, List.length_cons]
    congr 3
    omega

theorem scanFrom_eq_nil_iff : scanFrom pos u = [] ↔ ∀ d ∈ u, isBlank d = true := by
  induction pos, u using scan_steps with
  | nil pos => simp [scanFrom]
  | blank pos d r hd ih => rw [scanFrom_of_blank hd, ih, List.forall_mem_cons, and_iff_right hd]
  | token pos d r kind hd hk ih =>
    rw [scanFrom_token hk, List.forall_mem_cons, hd]
    simp

@[simp] theorem scan_nil : scan [] = [] := by rw [scan, scanFrom]

theorem scan_append_blank (u v : List Char) :
    scan (u ++ ' ' :: v) = scan u ++ (scan v).map (Token.shift (u.length + 1)) := by
  rw [scan, scanFrom_append breaks_blank, scanFrom_of_blank (by decide), scan, scan,
    ← scanFrom_add, Nat.zero_add, Nat.zero_add]

theorem scan_append_period (u v : List Char) :
    scan (u ++ '.' :: v) = scan u ++ ⟨.period, ['.'], u.length⟩ ::
      (scan v).map (Token.shift (u.length + 1)) := by
  have hlex : lexeme '.' v = (some .period, 0) := by
    simp [lexeme, isDigit, digitValue?, digitZeros, isLetter]
  have hk : (lexeme '.' v).1 = some .period := by rw [hlex]
  rw [scan, scanFrom_append breaks_period, scanFrom_token hk, hlex, scan, scan, ← scanFrom_add]
  simp only [Nat.zero_add, List.take_zero, List.drop_zero]

end Join

section Cut
variable {α : Type} {sep : α → Bool} {a : α} {g : List α}

theorem cutAt_of_forall (h : ∀ b ∈ g, sep b = false) : cutAt sep g = [g] := by
  induction g with
  | nil => rfl
  | cons b g ih =>
    rw [List.forall_mem_cons] at h
    rw [cutAt, ih h.2, h.1]
    rfl

theorem cutAt_append_cons (h : ∀ b ∈ g, sep b = false) (ha : sep a = true) (as : List α) :
    cutAt sep (g ++ a :: as) = g :: cutAt sep as := by
  induction g with
  | nil =>
    obtain ⟨g, gs, hcut⟩ := exists_mem_cutAt sep as
    rw [List.nil_append, cutAt, hcut, ha]
    rfl
  | cons b g ih =>
    rw [List.forall_mem_cons] at h
    rw [List.cons_append, cutAt, ih h.2, h.1]
    rfl

theorem cutAt_concat (ha : sep a = true) (as : List α) :
    cutAt sep (as ++ [a]) = cutAt sep as ++ [[]] := by
  induction as with
  | nil => simp [cutAt, ha]
  | cons b as ih =>
    obtain ⟨g, gs, hcut⟩ := exists_mem_cutAt sep as
    rw [List.cons_append, cutAt, ih, cutAt, hcut]
    cases sep b <;> rfl

theorem splitOnP_eq_cutAt (as : List α) : as.splitOnP sep = cutAt sep as := by
  induction as with
  | nil => rfl
  | cons a as ih =>
    obtain ⟨g, gs, hcut⟩ := exists_mem_cutAt sep as
    rw [List.splitOnP_cons_eq_if_modifyHead, ih, cutAt, hcut]
    rfl

end Cut

section Stands
variable {whole part : List Char} {ts : List Token} {us : List (List Char)} {k : Nat}

/-- What is calculated from some tokens of a text, and from no more of the text than lies between
them: where they stand in the text makes no difference. -/
def Local {β : Type} (f : List Char → List Token → β) : Prop :=
  ∀ {whole part : List Char} {k : Nat} {ts : List Token}, part <+: whole.drop k → Within part ts →
    f whole (ts.map (Token.shift k)) = f part ts

/-- Tokens of a text that are all those of a part of it. -/
def Stands (whole part : List Char) (ts : List Token) : Prop :=
  ∃ k, part <+: whole.drop k ∧ ts = (scan part).map (Token.shift k)

theorem Local.eq {β : Type} {f : List Char → List Token → β} (hf : Local f)
    (h : Stands whole part ts) : f whole ts = f part (scan part) := by
  obtain ⟨k, hp, rfl⟩ := h
  exact hf hp (within_scan part)

theorem local_part : Local Effect.part := part_shift

theorem local_benefit : Local benefit := benefit_shift

theorem local_alternatives : Local alternatives := alternatives_shift

theorem local_hasAlternatives : Local fun _ => hasAlternatives := fun _ _ => hasAlternatives_shift

theorem local_cost : Local cost? := cost?_shift

theorem local_spanText : Local spanText := spanText_shift

theorem local_clause : Local clause := clause_shift

theorem Token.shift_shift (j k : Nat) : Token.shift k ∘ Token.shift j = Token.shift (j + k) := by
  funext t
  exact congrArg (Token.mk t.kind t.text) (Nat.add_assoc ..)

theorem map_shift_zero (ts : List Token) : ts.map (Token.shift 0) = ts := List.map_id ts

theorem stands_of_prefix (h : part <+: whole) : Stands whole part (scan part) :=
  ⟨0, h, (map_shift_zero _).symm⟩

theorem prefix_drop_add {s u v : List Char} (h : u ++ v <+: s.drop k) :
    v <+: s.drop (k + u.length) := by
  obtain ⟨r, hr⟩ := h
  rw [← List.drop_drop, ← hr, List.append_assoc, List.drop_left]
  exact List.prefix_append ..

/-- A text that joins others: between any two it is one token, of a certain kind. -/
structure Joins (isSep : Token → Bool) (sep : List Char) : Prop where
  shift : ∀ k t, isSep (Token.shift k t) = isSep t
  scan : ∀ u v, ∃ t, isSep t = true ∧
    scan (u ++ sep ++ v) = scan u ++ t :: (scan v).map (Token.shift (u ++ sep).length)

theorem Joins.cutAt {isSep : Token → Bool} {sep : List Char} (h : Joins isSep sep) (hne : us ≠ [])
    (hus : ∀ u ∈ us, ∀ t ∈ Effect.scan u, isSep t = false) (hp : sep.intercalate us <+: whole.drop k) :
    List.Forall₂ (Stands whole) us
      (Effect.cutAt isSep ((Effect.scan (sep.intercalate us)).map (Token.shift k))) := by
  have hshift (u : List Char) (hu : ∀ t ∈ Effect.scan u, isSep t = false) (k : Nat) :
      ∀ t ∈ (Effect.scan u).map (Token.shift k), isSep t = false := by
    intro t ht
    obtain ⟨t', ht', rfl⟩ := List.mem_map.mp ht
    exact (h.shift k t').trans (hu t' ht')
  induction us generalizing k with
  | nil => contradiction
  | cons u us ih =>
    rw [List.forall_mem_cons] at hus
    cases us with
    | nil =>
      rw [List.intercalate_singleton] at hp ⊢
      rw [cutAt_of_forall (hshift u hus.1 k)]
      exact .cons ⟨k, hp, rfl⟩ .nil
    | cons v vs =>
      rw [List.intercalate_cons_cons] at hp ⊢
      obtain ⟨t, ht, hscan⟩ := h.scan u (sep.intercalate (v :: vs))
      rw [hscan, List.map_append, List.map_cons, List.map_map, Token.shift_shift, Nat.add_comm _ k,
        cutAt_append_cons (hshift u hus.1 k) ((h.shift k t).trans ht)]
      rw [List.append_assoc] at hp
      refine .cons ⟨k, (List.prefix_append ..).trans hp, rfl⟩ ?_
      rw [← List.append_assoc] at hp
      exact ih (List.cons_ne_nil v vs) hus.2 (prefix_drop_add hp)

end Stands

end GuildCards.Effect
