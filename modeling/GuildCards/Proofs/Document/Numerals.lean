import Mathlib
import GuildCards.Document.Arithmetic
import GuildCards.Proofs.Document.Quoting

/-!
Numbers and names of scalars in a document. What follows a numeral does not change how it is read, as
long as it is one of the marks that follow a value. A whole number is read as it was written.
-/
namespace GuildCards.Document
open Number

/-- What may follow a value: nothing, or text that begins with a mark or with a new line. -/
inductive Ends : List Char → Prop where
  | nothing : Ends []
  | comma (t : List Char) : Ends (',' :: t)
  | closeList (t : List Char) : Ends (']' :: t)
  | closeObject (t : List Char) : Ends ('\x7d' :: t)
  | newline (t : List Char) : Ends ('\n' :: t)

section Following
variable {r : List Char} (h : Ends r) (s : List Char)
include h

theorem takeWhile_append : (s ++ r).takeWhile Char.isDigit = s.takeWhile Char.isDigit := by
  induction s with
  | nil => cases h <;> rfl
  | cons c s ih => rw [List.cons_append, List.takeWhile_cons, List.takeWhile_cons, ih]

theorem fraction?_append : fraction? (s ++ r) = fraction? s := by
  cases s with
  | nil => cases h <;> rfl
  | cons c s =>
    by_cases hc : c = '.'
    · subst hc
      simp only [List.cons_append, fraction?, takeWhile_append h]
    · simp [fraction?, hc]

theorem exponent?_append : exponent? (s ++ r) = exponent? s := by
  cases s with
  | nil => cases h <;> rfl
  | cons c s =>
    simp only [List.cons_append, exponent?]
    congr 1
    cases s with
    | nil => cases h <;> rfl
    | cons d s =>
      by_cases hminus : d = '-'
      · subst hminus
        simp only [List.cons_append, takeWhile_append h]
      · by_cases hplus : d = '+'
        · subst hplus
          simp only [List.cons_append, takeWhile_append h]
        · have hdigits : (d :: (s ++ r)).takeWhile Char.isDigit = (d :: s).takeWhile Char.isDigit :=
            takeWhile_append h (d :: s)
          simp [hminus, hplus, hdigits]

theorem wholePart_append : wholePart (s ++ r) = wholePart s := by
  cases s with
  | nil => cases h <;> rfl
  | cons c s =>
    by_cases hc : c = '0'
    · subst hc
      rfl
    · have hdigits : (c :: (s ++ r)).takeWhile Char.isDigit = (c :: s).takeWhile Char.isDigit :=
        takeWhile_append h (c :: s)
      simp [wholePart, hc, hdigits]

omit h in
theorem wholePart_length_le : (wholePart s).length ≤ s.length := by
  unfold wholePart
  split
  · simp
  · exact (List.takeWhile_prefix _).length_le

omit h in
theorem fraction?_length_lt {places : List Char} (hp : fraction? s = some places) :
    places.length < s.length := by
  unfold fraction? at hp
  split at hp
  · split at hp
    · cases hp
    · obtain rfl := Option.some.inj hp
      exact Nat.lt_succ_of_le (List.takeWhile_prefix _).length_le
  · cases hp

theorem readUnsigned?_append (negative : Bool) :
    readUnsigned? negative (s ++ r) = readUnsigned? negative s := by
  unfold readUnsigned?
  simp only [wholePart_append h, List.drop_append_of_le_length (wholePart_length_le s),
    fraction?_append h]
  generalize s.drop (wholePart s).length = t
  generalize hplaces : (fraction? t).getD [] = places
  -- point and places lie within the text, so what follows is not reached
  have hpoint : (if places = [] then 0 else 1 + places.length) ≤ t.length := by
    split_ifs with hnone
    · exact Nat.zero_le _
    · cases hfraction : fraction? t with
      | none =>
        rw [hfraction] at hplaces
        exact absurd hplaces.symm hnone
      | some ds =>
        rw [hfraction] at hplaces
        obtain rfl : ds = places := hplaces
        have hlt := fraction?_length_lt t hfraction
        omega
  simp only [List.drop_append_of_le_length hpoint, exponent?_append h]

theorem readNumber?_append : readNumber? (s ++ r) = readNumber? s := by
  cases s with
  | nil => cases h <;> rfl
  | cons c s =>
    by_cases hc : c = '-'
    · subst hc
      simp only [List.cons_append, readNumber?, readUnsigned?_append h]
    · have hrest : readUnsigned? false (c :: (s ++ r)) = readUnsigned? false (c :: s) :=
        readUnsigned?_append h (c :: s) false
      simp [readNumber?, hc, hrest]

theorem isPrefixOf_append {name : List Char}
    (hname : ∀ c ∈ name, c ≠ ',' ∧ c ≠ ']' ∧ c ≠ '\x7d' ∧ c ≠ '\n') :
    name.isPrefixOf (s ++ r) = name.isPrefixOf s := by
  induction name generalizing s with
  | nil => simp
  | cons c name ih =>
    rw [List.forall_mem_cons] at hname
    obtain ⟨⟨hcomma, hlist, hobject, hnewline⟩, hname⟩ := hname
    cases s with
    | nil => cases h <;> simp [List.isPrefixOf, *]
    | cons d s => rw [List.cons_append, List.isPrefixOf, List.isPrefixOf, ih s hname]

theorem scalarName?_append : scalarName? (s ++ r) = scalarName? s := by
  have hnames : ∀ x ∈ scalarNames, ∀ c ∈ x.1, c ≠ ',' ∧ c ≠ ']' ∧ c ≠ '\x7d' ∧ c ≠ '\n' := by
    simp [scalarNames]
  unfold scalarName?
  congr 1
  exact List.find?_congr fun x hx => isPrefixOf_append h s (hnames x hx)

end Following

def scalar? (s : List Char) : Option (Lexeme × Nat) :=
  (scalarName? s).orElse fun _ => readNumber? s

theorem scalar?_append {r : List Char} (h : Ends r) (s : List Char) : scalar? (s ++ r) = scalar? s := by
  rw [scalar?, scalarName?_append h, readNumber?_append h, scalar?]

theorem scalar?_eq_none {c : Char} (s : List Char)
    (hc : isSpace c = true ∨ c ∈ ['[', ']', '\x7b', '\x7d', ':', ',', '"']) :
    scalar? (c :: s) = none := by
  simp only [isSpace, Bool.or_eq_true, decide_eq_true_eq, List.mem_cons, List.not_mem_nil, or_false,
    or_assoc] at hc
  rcases hc with rfl | rfl | rfl | rfl | rfl | rfl | rfl | rfl | rfl | rfl | rfl <;> rfl

theorem firstLexeme_of_scalar {c : Char} {s : List Char} {x : Lexeme} {n : Nat}
    (h : scalar? (c :: s) = some (x, n)) (pos : Nat) :
    isSpace c = false ∧ firstLexeme pos c s = (x, n - 1) := by
  have hnone (hc : isSpace c = true ∨ c ∈ ['[', ']', '\x7b', '\x7d', ':', ',', '"']) : False := by
    rw [scalar?_eq_none s hc] at h
    cases h
  refine ⟨Bool.eq_false_iff.mpr fun hspace => hnone (.inl hspace), ?_⟩
  unfold firstLexeme
  split
  case h_8 =>
    have hscalar : ((scalarName? (c :: s)).orElse fun _ => readNumber? (c :: s)) = some (x, n) := h
    rw [hscalar]
  all_goals exact (hnone (.inr (by simp))).elim

-- The bound has thousands of digits: it is not to be worked out.
attribute [local irreducible] Number.digitLimit in
theorem isWritable_iff (n : Int) :
    (Value.int n).isWritable = decide (n.natAbs < 10 ^ Number.digitLimit) := rfl

theorem isWritable_int {n : Int} :
    (Value.int n).isWritable = true ↔ n.natAbs < 10 ^ Number.digitLimit := by
  rw [isWritable_iff, decide_eq_true_eq]

theorem isWritable_of_lt {n : Int} (h : n.natAbs < 10 ^ Number.digitLimit) :
    (Value.int n).isWritable = true := isWritable_int.mpr h

theorem areWritable_iff {vs : List Value} :
    Value.areWritable vs = true ↔ ∀ v ∈ vs, v.isWritable = true := by
  induction vs with
  | nil => simp [Value.areWritable]
  | cons v vs ih => rw [Value.areWritable, Bool.and_eq_true, ih, List.forall_mem_cons]

theorem tell_eq_ok {α : Type} {shown : List Value} {a b : α} :
    Value.tell shown a = .ok b ↔ (∀ v ∈ shown, v.isWritable = true) ∧ b = a := by
  rw [← areWritable_iff, Value.tell]
  split_ifs with h <;> simp [h, eq_comm]

theorem tell_eq_error {α : Type} {shown : List Value} {a : α} {f : Fault} :
    Value.tell shown a = .error f ↔
      (∃ v ∈ shown, v.isWritable = false) ∧ f = .tooLongToWrite := by
  have hsome : Value.areWritable shown = false ↔ ∃ v ∈ shown, v.isWritable = false := by
    rw [← Bool.not_eq_true, areWritable_iff]
    push Not
    simp only [Bool.not_eq_true]
  rw [← hsome, Value.tell]
  split_ifs with h <;> simp [h, eq_comm]

theorem isDigit_of_mem {m : Nat} {c : Char} (h : c ∈ Nat.toDigits 10 m) : c.isDigit = true :=
  Nat.isDigit_of_mem_toDigits (by decide) (by decide) h

theorem toDigits_head (m : Nat) : ∃ c cs, Nat.toDigits 10 m = c :: cs ∧ (c = '0' → m = 0) := by
  induction m using Nat.strong_induction_on with
  | _ m ih =>
    by_cases hm : m < 10
    · refine ⟨m.digitChar, [], Nat.toDigits_of_lt_base hm, ?_⟩
      interval_cases m <;> decide
    · obtain ⟨c, cs, hdigits, hzero⟩ := ih (m / 10) (by omega)
      refine ⟨c, cs ++ [(m % 10).digitChar], ?_, fun hc => ?_⟩
      · rw [Nat.toDigits_of_base_le (by decide) (by omega), hdigits, List.cons_append]
      · have := hzero hc
        omega

theorem wholePart_toDigits (m : Nat) : wholePart (Nat.toDigits 10 m) = Nat.toDigits 10 m := by
  obtain ⟨c, cs, hdigits, hzero⟩ := toDigits_head m
  by_cases hc : c = '0'
  · rw [hzero hc]
    rfl
  · have hall : ∀ d ∈ c :: cs, d.isDigit = true := fun d hd => isDigit_of_mem (hdigits ▸ hd)
    rw [hdigits, wholePart]
    · exact List.takeWhile_eq_self_iff.mpr hall
    · intro t heq
      exact hc (List.cons.inj heq).1

theorem decimal_of_digits {ds : List Char} (h : ∀ c ∈ ds, c.isDigit = true) :
    decimal ds = Nat.ofDigitChars 10 ds 0 := by
  rw [decimal, Nat.ofDigitChars_eq_foldl]
  refine List.foldl_ext _ _ 0 fun n c hc => ?_
  obtain ⟨hlow, hhigh⟩ := Char.isDigit_iff_toNat.mp (h c hc)
  have hvalue : Text.digitValue? c = some (c.toNat - '0'.toNat) := by
    have hfirst : (decide (0x30 ≤ c.toNat) && decide (c.toNat < 0x30 + 10)) = true := by
      rw [Bool.and_eq_true, decide_eq_true_eq, decide_eq_true_eq]
      exact ⟨hlow, Nat.lt_succ_of_le hhigh⟩
    simp only [Text.digitValue?, Text.digitZeros, List.find?_cons, hfirst]
    rfl
  rw [hvalue]
  rfl

theorem natural_toDigits {m : Nat} (hm : m < 10 ^ digitLimit) :
    natural (Nat.toDigits 10 m) = .ok m := by
  have hlength : (Nat.toDigits 10 m).length ≤ digitLimit :=
    (Nat.length_toDigits_le_iff (by decide) (by decide)).mpr hm
  rw [natural, if_pos hlength, decimal_of_digits fun c hc => isDigit_of_mem hc,
    Nat.ofDigitChars_ten_toDigits]

theorem readUnsigned?_toDigits {m : Nat} (hm : m < 10 ^ digitLimit) (negative : Bool) :
    readUnsigned? negative (Nat.toDigits 10 m) =
      some (.scalar (.int (if negative then -(m : Int) else m)), (Nat.toDigits 10 m).length) := by
  simp only [readUnsigned?, wholePart_toDigits, Nat.toDigits_ne_nil, if_false, List.drop_length]
  simp only [fraction?, Option.getD_none, if_true, List.drop_zero, exponent?, ne_eq, not_true_eq_false,
    if_false, natural_toDigits hm, Nat.add_zero]

theorem scalarName?_digit {c : Char} (hc : c.isDigit = true) (s : List Char) :
    scalarName? (c :: s) = none ∧ scalarName? ('-' :: c :: s) = none := by
  have hne {d : Char} (hd : d.isDigit = false) : (d == c) = false := by
    rw [beq_eq_false_iff_ne]
    rintro rfl
    rw [hc] at hd
    cases hd
  simp [scalarName?, scalarNames, List.isPrefixOf, hne]

theorem toList_ofNat (m : Nat) : (toString (Int.ofNat m)).toList = Nat.toDigits 10 m :=
  Nat.toList_repr

theorem toList_negSucc (m : Nat) :
    (toString (Int.negSucc m)).toList = '-' :: Nat.toDigits 10 (m + 1) := by
  change ("-" ++ (m + 1).repr).toList = _
  rw [String.toList_append, Nat.toList_repr]
  rfl

theorem scalar?_toString {n : Int} (hn : n.natAbs < 10 ^ digitLimit) :
    scalar? (toString n).toList = some (.scalar (.int n), (toString n).toList.length) := by
  cases n with
  | ofNat m =>
    have hm : m < 10 ^ digitLimit := hn
    obtain ⟨c, cs, hdigits, -⟩ := toDigits_head m
    have hc : c.isDigit = true := isDigit_of_mem (hdigits ▸ List.mem_cons_self)
    have hname : scalarName? (Nat.toDigits 10 m) = none := hdigits ▸ (scalarName?_digit hc cs).1
    have hnumber : readNumber? (Nat.toDigits 10 m) = readUnsigned? false (Nat.toDigits 10 m) := by
      rw [hdigits, readNumber?]
      rintro t heq
      obtain rfl := (List.cons.inj heq).1
      cases hc
    rw [toList_ofNat, scalar?, hname, hnumber, readUnsigned?_toDigits hm]
    rfl
  | negSucc m =>
    obtain ⟨c, cs, hdigits, -⟩ := toDigits_head (m + 1)
    have hc : c.isDigit = true := isDigit_of_mem (hdigits ▸ List.mem_cons_self)
    have hname : scalarName? ('-' :: Nat.toDigits 10 (m + 1)) = none :=
      hdigits ▸ (scalarName?_digit hc cs).2
    have hm : m + 1 < 10 ^ digitLimit := hn
    rw [toList_negSucc, scalar?, hname]
    simp only [Option.orElse, readNumber?]
    rw [readUnsigned?_toDigits hm]
    rfl

theorem printable_toDigits (m : Nat) : ∀ c ∈ Nat.toDigits 10 m, IsPrintable c := by
  intro c hc
  obtain ⟨hlow, hhigh⟩ := Char.isDigit_iff_toNat.mp (isDigit_of_mem hc)
  exact ⟨le_trans (by decide) hlow, hhigh.trans_lt (by decide)⟩

theorem printable_toString (n : Int) : ∀ c ∈ (toString n).toList, IsPrintable c := by
  cases n with
  | ofNat m =>
    rw [toList_ofNat]
    exact printable_toDigits m
  | negSucc m =>
    rw [toList_negSucc, List.forall_mem_cons]
    exact ⟨by decide, printable_toDigits (m + 1)⟩

theorem printable_stripZeros {ds : List Char} (h : ∀ c ∈ ds, IsPrintable c) :
    ∀ c ∈ Decimal.stripZeros ds, IsPrintable c := by
  unfold Decimal.stripZeros
  split
  · exact List.forall_mem_singleton.mpr (by decide)
  · intro c hc
    exact h c (List.mem_reverse.mp ((List.dropWhile_suffix _).subset (List.mem_reverse.mp hc)))

theorem printable_replicate (n : Nat) : ∀ c ∈ List.replicate n '0', IsPrintable c := by
  intro c hc
  obtain rfl := List.eq_of_mem_replicate hc
  decide

theorem printable_layout (d : Decimal) : ∀ c ∈ d.layout, IsPrintable c := by
  have hds : ∀ c ∈ Decimal.stripZeros (Nat.toDigits 10 d.digits), IsPrintable c :=
    printable_stripZeros (printable_toDigits _)
  have hzero : IsPrintable '0' := by decide
  have hpoint : IsPrintable '.' := by decide
  simp only [Decimal.layout]
  generalize Decimal.stripZeros (Nat.toDigits 10 d.digits) = ds at hds
  generalize d.exp + (Nat.toDigits 10 d.digits).length - 1 = lead
  by_cases hplain : -4 ≤ lead ∧ lead < 16
  · rw [if_pos hplain]
    by_cases hsmall : lead < 0
    · rw [if_pos hsmall]
      simp only [List.cons_append, List.forall_mem_cons, List.forall_mem_append]
      exact ⟨hzero, hpoint, printable_replicate _, hds⟩
    · rw [if_neg hsmall]
      simp only [List.forall_mem_cons, List.forall_mem_append]
      refine ⟨⟨fun c hc => hds c (List.mem_of_mem_take hc), printable_replicate _⟩, hpoint, ?_⟩
      split_ifs
      · exact List.forall_mem_singleton.mpr hzero
      · exact fun c hc => hds c (List.mem_of_mem_drop hc)
  · rw [if_neg hplain]
    have hmark : ∀ c ∈ 'e' :: (if lead < 0 then '-' else '+') ::
        (if lead.natAbs < 10 then ['0'] else []) ++ Nat.toDigits 10 lead.natAbs, IsPrintable c := by
      simp only [List.cons_append, List.forall_mem_cons, List.forall_mem_append]
      refine ⟨by decide, ?_, ?_, printable_toDigits _⟩
      · split_ifs <;> decide
      · split_ifs <;> simp [hzero]
    generalize 'e' :: (if lead < 0 then '-' else '+') ::
        (if lead.natAbs < 10 then ['0'] else []) ++ Nat.toDigits 10 lead.natAbs = mark at hmark
    split
    · rw [List.forall_mem_singleton] at hds
      exact List.forall_mem_cons.mpr ⟨hds, hmark⟩
    · rw [List.forall_mem_cons] at hds
      simp only [List.cons_append, List.forall_mem_cons, List.forall_mem_append]
      exact ⟨hds.1, hpoint, hds.2, hmark⟩
    · exact hmark

theorem printable_text (x : Real64) : ∀ c ∈ x.text.toList, IsPrintable c := by
  have hsign : ∀ c ∈ if x.negative then ['-'] else [], IsPrintable c := by
    split_ifs <;> simp [IsPrintable]
  simp only [Real64.text]
  generalize (if x.negative then ['-'] else []) = sign at hsign
  split_ifs
  · simp [IsPrintable]
  all_goals
    rw [String.toList_ofList, List.forall_mem_append]
    refine ⟨hsign, ?_⟩
  · simp [IsPrintable]
  · simp [IsPrintable]
  · exact printable_layout _

theorem printable_printReal (x : Real64) : ∀ c ∈ (printReal x).toList, IsPrintable c := by
  unfold printReal
  split_ifs
  · simp [IsPrintable]
  · exact printable_text x
  · simp [IsPrintable]
  · simp [IsPrintable]

end GuildCards.Document
