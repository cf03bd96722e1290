import Mathlib
import GuildCards.Document.Printer
import GuildCards.Document.Lexeme

/-!
A quoted text is read as it was. Every character comes back from its escape, with one exception: where
a first half stands right before a second one, the two are read as the character that they make up.
-/
namespace GuildCards

/-- Does a first half stand right before a second one? -/
def Text.hasPair : List Char → Bool
  | c :: d :: r =>
    (half? c).any isFirstHalf && (half? d).any isSecondHalf || hasPair (d :: r)
  | _ => false

namespace Document
open Text

inductive Escape (c : Char) : List Char → Prop where
  | named {x : Char} (h : escapeOf? x = some c) : Escape c ['\\', x]
  | plain (quote : c ≠ '"') (slash : c ≠ '\\') (low : 0x20 ≤ c.toNat) (high : c.toNat < 0x7F) :
    Escape c [c]
  | unit {m : Nat} (bound : m < 0x10000) (same : ofUnit m = c)
    (half : isHalf m = true → half? c = some m) : Escape c (unitEscape m)
  | pair {m n : Nat} (first : isFirstHalf m = true) (second : isSecondHalf n = true)
    (same : ofPair m n = c) : Escape c (unitEscape m ++ unitEscape n)

variable {c : Char} {w r : List Char} {m n : Nat}

theorem isHalf_iff : isHalf m = true ↔ 0xD800 ≤ m ∧ m < 0xE000 := by
  rw [isHalf, Bool.and_eq_true, decide_eq_true_eq, decide_eq_true_eq]
  rfl

theorem isFirstHalf_iff : isFirstHalf m = true ↔ 0xD800 ≤ m ∧ m < 0xDC00 := by
  rw [isFirstHalf, Bool.and_eq_true, decide_eq_true_eq, decide_eq_true_eq]
  rfl

theorem isSecondHalf_iff : isSecondHalf m = true ↔ 0xDC00 ≤ m ∧ m < 0xE000 := by
  rw [isSecondHalf, Bool.and_eq_true, decide_eq_true_eq, decide_eq_true_eq]
  rfl

theorem toNat_lt_or (c : Char) : c.toNat < 0xD800 ∨ 0xDFFF < c.toNat ∧ c.toNat < 0x110000 :=
  c.valid

theorem ofUnit_of_half? (h : half? c = some m) : ofUnit m = c ∧ m < 0x10000 := by
  unfold half? at h
  split_ifs at h with hc
  obtain rfl := Option.some.inj h
  rw [Bool.and_eq_true, decide_eq_true_eq] at hc
  have hsum : halfOffset + (c.toNat - halfOffset) = c.toNat := by omega
  refine ⟨?_, (isHalf_iff.mp hc.1).2.trans (by decide)⟩
  rw [ofUnit, if_pos hc.1, hsum, Char.ofNat_toNat]

theorem not_isHalf_toNat (c : Char) : ¬isHalf c.toNat = true := by
  have hc := toNat_lt_or c
  rw [isHalf_iff]
  omega

theorem escape_high (hn : ¬c.toNat < 0x10000) :
    Escape c (unitEscape (0xD800 + (c.toNat - 0x10000) / 0x400) ++
      unitEscape (0xDC00 + (c.toNat - 0x10000) % 0x400)) := by
  have hc := toNat_lt_or c
  refine .pair ?_ ?_ ?_
  · rw [isFirstHalf_iff]
    omega
  · rw [isSecondHalf_iff]
    omega
  · have hsum : 0x10000 + (0xD800 + (c.toNat - 0x10000) / 0x400 - firstHalf) * 0x400 +
        (0xDC00 + (c.toNat - 0x10000) % 0x400 - 0xDC00) = c.toNat := by
      simp only [firstHalf]
      omega
    rw [ofPair, hsum, Char.ofNat_toNat]

theorem escape (c : Char) : Escape c (escapedChar c) := by
  unfold escapedChar
  split
  case h_8 hquote hslash _ _ _ _ _ =>
    simp only
    split_ifs with hprint hn
    · exact .plain hquote hslash hprint.1 hprint.2
    · refine .unit hn ?_ fun h => ?_
      · rw [ofUnit, if_neg (not_isHalf_toNat c), Char.ofNat_toNat]
      · exact absurd h (not_isHalf_toNat c)
    · split
      · rename_i unit hunit
        obtain ⟨hsame, hbound⟩ := ofUnit_of_half? hunit
        exact .unit hbound hsame fun _ => hunit
      · exact escape_high hn
  all_goals exact .named rfl

def IsPrintable (c : Char) : Prop := 0x20 ≤ c.toNat ∧ c.toNat < 0x7F

instance (c : Char) : Decidable (IsPrintable c) := inferInstanceAs (Decidable (_ ∧ _))

theorem printable_unitEscape (hm : m < 0x10000) : ∀ x ∈ unitEscape m, IsPrintable x := by
  have hdigit : ∀ d < 16, IsPrintable d.digitChar := by decide
  simp only [unitEscape, List.map_cons, List.map_nil, List.forall_mem_cons]
  exact ⟨by decide, by decide, hdigit _ (by omega), hdigit _ (by omega), hdigit _ (by omega),
    hdigit _ (by omega), by simp⟩

theorem Escape.printable (hw : Escape c w) : ∀ x ∈ w, IsPrintable x := by
  cases hw with
  | @named x h =>
    have hx : IsPrintable x := by
      unfold escapeOf? at h
      split at h
      all_goals first
        | decide
        | cases h
    rw [List.forall_mem_cons, List.forall_mem_singleton]
    exact ⟨by decide, hx⟩
  | plain quote slash low high => exact List.forall_mem_singleton.mpr ⟨low, high⟩
  | unit bound => exact printable_unitEscape bound
  | pair first second =>
    rw [List.forall_mem_append]
    exact ⟨printable_unitEscape ((isFirstHalf_iff.mp first).2.trans (by decide)),
      printable_unitEscape ((isSecondHalf_iff.mp second).2.trans (by decide))⟩

/-- A text that does not begin with the escape of a second half. -/
def Apart (r : List Char) : Prop :=
  (∀ t, r ≠ '\\' :: 'u' :: t) ∨
    ∃ n t, n < 0x10000 ∧ isSecondHalf n = false ∧ r = unitEscape n ++ t

theorem unitOf?_digits (hm : m < 0x10000) :
    unitOf? (m / 0x1000).digitChar (m / 0x100 % 16).digitChar (m / 0x10 % 16).digitChar
      (m % 16).digitChar = some m := by
  have hdigit : ∀ d < 16, hexValue? d.digitChar = some d := by decide
  have hhigh : m / 0x1000 < 16 := by omega
  have hlow (n : Nat) : n % 16 < 16 := Nat.mod_lt n (by decide)
  simp only [unitOf?, hdigit _ hhigh, hdigit _ (hlow _), Option.bind_eq_bind, Option.bind_some, Option.pure_def]
  congr 1
  omega

section Reading
variable {start pos : Nat} {acc : List Char}

theorem readText_pair (hm : isFirstHalf m = true) (hn : isSecondHalf n = true) (hr : r ≠ []) :
    readText start pos acc (unitEscape m ++ unitEscape n ++ r) =
      readText start (pos + 12) (ofPair m n :: acc) r := by
  obtain ⟨q, t, rfl⟩ := List.exists_cons_of_ne_nil hr
  have hm' : m < 0x10000 := (isFirstHalf_iff.mp hm).2.trans (by decide)
  have hn' : n < 0x10000 := (isSecondHalf_iff.mp hn).2.trans (by decide)
  simp only [unitEscape, List.map_cons, List.map_nil, List.cons_append, List.nil_append]
  rw [readText.eq_3, unitOf?_digits hm', unitOf?_digits hn']
  simp only [hm, hn, if_true]

theorem readText_unit (hm : m < 0x10000) (hr : r ≠ []) (hnext : isFirstHalf m = true → Apart r) :
    readText start pos acc (unitEscape m ++ r) = readText start (pos + 6) (ofUnit m :: acc) r := by
  obtain ⟨q, t, rfl⟩ := List.exists_cons_of_ne_nil hr
  simp only [unitEscape, List.map_cons, List.map_nil, List.cons_append, List.nil_append]
  -- two escapes in a row are looked at together, so what comes next decides how this one is read
  by_cases hescape : ∃ e f g h x y, q = '\\' ∧ t = 'u' :: e :: f :: g :: h :: x :: y
  · obtain ⟨e, f, g, h, x, y, rfl, rfl⟩ := hescape
    rw [readText.eq_3, unitOf?_digits hm]
    simp only
    split_ifs with hfirst
    · rcases hnext hfirst with hno | ⟨n, t, hn, hsecond, heq⟩
      · exact absurd rfl (hno _)
      · simp only [unitEscape, List.map_cons, List.map_nil, List.cons_append, List.nil_append,
          List.cons.injEq, true_and] at heq
        obtain ⟨rfl, rfl, rfl, rfl, -⟩ := heq
        rw [unitOf?_digits hn]
        simp only [hsecond, Bool.false_eq_true, if_false]
    · rfl
  · rw [readText.eq_4 _ _ _ _ _ _ _ _ _ fun e f g h x y hq ht =>
      hescape ⟨e, f, g, h, x, y, hq, ht⟩, unitOf?_digits hm]

theorem readText_escape (hw : Escape c w) (hr : r ≠ [])
    (hnext : (half? c).any isFirstHalf = true → Apart r) :
    readText start pos acc (w ++ r) = readText start (pos + w.length) (c :: acc) r := by
  cases hw with
  | @named x h =>
    have hu : x ≠ 'u' := by
      rintro rfl
      cases h
    simp only [List.cons_append, List.nil_append]
    rw [readText.eq_7 _ _ _ _ _ (fun _ _ _ _ _ _ _ _ _ _ hx _ => hu hx)
      (fun _ _ _ _ _ _ hx _ => hu hx) hu, h]
    rfl
  | plain quote slash low high =>
    simp only [List.cons_append, List.nil_append]
    rw [readText.eq_8 _ _ _ _ _ quote (fun _ _ _ _ _ _ _ _ _ _ hx _ => slash hx)
      (fun _ _ _ _ _ _ hx _ => slash hx) (fun _ hx _ => slash hx) (fun hx _ => slash hx)
      (fun _ _ hx _ => slash hx), if_neg (not_lt.mpr low)]
    rfl
  | @unit m bound same half =>
    rw [readText_unit bound hr, same]
    · rfl
    · intro hfirst
      have hhalf : isHalf m = true := by
        rw [isFirstHalf_iff] at hfirst
        rw [isHalf_iff]
        omega
      exact hnext (by rw [half hhalf, Option.any_some, hfirst])
  | pair first second same =>
    rw [readText_pair first second hr, same]
    rfl

theorem Escape.apart (hw : Escape c w) (hc : (half? c).any isSecondHalf = false) :
    Apart (w ++ r) := by
  cases hw with
  | named h =>
    refine .inl fun t heq => ?_
    obtain rfl : _ = 'u' := (List.cons.inj (List.cons.inj heq).2).1
    cases h
  | plain quote slash low high => exact .inl fun t heq => slash (List.cons.inj heq).1
  | @unit m bound same half =>
    refine .inr ⟨m, r, bound, Bool.eq_false_iff.mpr fun hsecond => ?_, rfl⟩
    have hhalf : isHalf m = true := by
      rw [isSecondHalf_iff] at hsecond
      rw [isHalf_iff]
      omega
    rw [half hhalf, Option.any_some, hsecond] at hc
    cases hc
  | @pair m n first second same =>
    have hm := (isFirstHalf_iff.mp first).2
    refine .inr ⟨m, unitEscape n ++ r, by omega, ?_, List.append_assoc _ _ _⟩
    rw [Bool.eq_false_iff, ne_eq, isSecondHalf_iff]
    omega

theorem readText_written {cs : List Char} (h : hasPair cs = false) :
    readText start pos acc (cs.flatMap escapedChar ++ '"' :: r) =
      .inr (acc.reverse ++ cs, pos + (cs.flatMap escapedChar).length + 1) := by
  induction cs generalizing pos acc with
  | nil =>
    rw [List.flatMap_nil, List.nil_append, readText.eq_2, List.append_nil]
    rfl
  | cons c cs ih =>
    have hrest : hasPair cs = false := by
      cases cs with
      | nil => rfl
      | cons d ds => exact (Bool.or_eq_false_iff.mp h).2
    have hnext (hc : (half? c).any isFirstHalf = true) :
        Apart (cs.flatMap escapedChar ++ '"' :: r) := by
      cases cs with
      | nil => exact .inl fun t heq => by cases heq
      | cons d ds =>
        have hd := (Bool.or_eq_false_iff.mp h).1
        rw [hc, Bool.true_and] at hd
        rw [List.flatMap_cons, List.append_assoc]
        exact (escape d).apart hd
    rw [List.flatMap_cons, List.append_assoc, readText_escape (escape c) (by simp) hnext, ih hrest,
      List.reverse_cons, List.append_assoc, List.length_append]
    simp only [List.cons_append, List.nil_append, Nat.add_assoc]

end Reading

end Document
end GuildCards
