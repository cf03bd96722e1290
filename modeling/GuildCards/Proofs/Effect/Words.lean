import Mathlib
import GuildCards.Proofs.Effect.Language
import GuildCards.Proofs.Effect.LetterCase

/-!
The words of the language. A numeral is one token, and read it has its value; a noun in any letter
case has the tokens of its keyword, none of which separates anything; and the words before a noun
hide no keyword, so the noun of an item is the one that is found.
-/
namespace GuildCards.Effect
open Text Number

section Tight
variable {s u v sep : List Char} {us : List (List Char)}

structure Tight (s : List Char) : Prop where
  first : s.head?.any (!isBlank ·) = true
  last : s.getLast?.any (!isBlank ·) = true

theorem Tight.strip (h : Tight s) : strip s = s := by
  apply strip_eq_self
  · intro c hc
    simpa [Option.mem_def.mp hc] using h.first
  · intro c hc
    simpa [Option.mem_def.mp hc] using h.last

theorem Tight.scan_ne_nil (h : Tight s) : scan s ≠ [] := by
  intro hnil
  cases s with
  | nil => simpa using h.first
  | cons c s =>
    have hblank := scanFrom_eq_nil_iff.mp hnil c List.mem_cons_self
    simpa [hblank] using h.first

theorem Tight.append (hu : Tight u) (m : List Char) (hv : Tight v) : Tight (u ++ (m ++ v)) := by
  constructor
  · cases u with
    | nil => simpa using hu.first
    | cons c u => exact hu.first
  · cases hlast : v.getLast? with
    | none => simpa [hlast] using hv.last
    | some c =>
      rw [List.getLast?_append, List.getLast?_append, hlast, Option.some_or, Option.some_or, ← hlast]
      exact hv.last

theorem Tight.intercalate (hne : us ≠ []) (h : ∀ u ∈ us, Tight u) : Tight (sep.intercalate us) := by
  induction us with
  | nil => contradiction
  | cons u us ih =>
    rw [List.forall_mem_cons] at h
    cases us with
    | nil =>
      rw [List.intercalate_singleton]
      exact h.1
    | cons v vs =>
      rw [List.intercalate_cons_cons, List.append_assoc]
      exact h.1.append sep (ih (List.cons_ne_nil v vs) h.2)

theorem Tight.of_lowered (h : Tight (s.map Char.toLower)) : Tight s := by
  obtain ⟨hfirst, hlast⟩ := h
  rw [List.head?_map, Option.any_map] at hfirst
  rw [List.getLast?_map, Option.any_map] at hlast
  simp only [isBlank_toLower] at hfirst hlast
  exact ⟨hfirst, hlast⟩

theorem tight_of_not_blank (hne : s ≠ []) (h : ∀ c ∈ s, isBlank c = false) : Tight s := by
  constructor
  · rw [List.head?_eq_some_head hne, Option.any_some, h _ (List.head_mem hne)]
    rfl
  · rw [List.getLast?_eq_some_getLast hne, Option.any_some, h _ (List.getLast_mem hne)]
    rfl

end Tight

section Levels
variable {m n : Nat} {s u v : List Char} {t : Token} {P : Token → Prop}

/-- The level on which a token separates phrases; what separates nothing is on level zero. -/
def Token.level (t : Token) : Nat :=
  if t.isPeriod then 4
  else if t.isArrow then 3
  else if t.isWord "or" then 2
  else if t.isWord "and" then 1
  else 0

theorem level_lowered (t : Token) : t.lowered.level = t.level := by
  have hperiod : t.lowered.isPeriod = t.isPeriod := rfl
  have harrow : t.lowered.isArrow = t.isArrow := rfl
  rw [Token.level, hperiod, harrow, isWord_lowered, isWord_lowered, Token.level]

theorem level_of_isPeriod (h : t.isPeriod = true) : t.level = 4 := if_pos h

theorem level_of_isArrow (h : t.isArrow = true) : t.level = 3 := by
  have hkind : t.kind = .arrow := by simpa [Token.isArrow] using h
  simp [Token.level, Token.isPeriod, Token.isArrow, hkind]

theorem eq_of_isWord {w : String} (h : t.isWord w = true) :
    t.kind = .word ∧ t.text.map Char.toLower = w.toList := by
  rwa [Token.isWord, Bool.and_eq_true, decide_eq_true_eq, decide_eq_true_eq] at h

theorem level_of_or (h : t.isWord "or" = true) : t.level = 2 := by
  obtain ⟨hkind, -⟩ := eq_of_isWord h
  simp [Token.level, Token.isPeriod, Token.isArrow, hkind, h]

theorem level_of_and (h : t.isWord "and" = true) : t.level = 1 := by
  obtain ⟨hkind, htext⟩ := eq_of_isWord h
  have hor : t.isWord "or" = false := by
    rw [Token.isWord, htext]
    exact Bool.and_false _
  simp [Token.level, Token.isPeriod, Token.isArrow, hkind, hor, h]

def Every (P : Token → Prop) (s : List Char) : Prop := ∀ t ∈ scan s, P t

theorem Every.append_blank (hP : ∀ k t, P t → P (t.shift k)) (hu : Every P u) (hv : Every P v) :
    Every P (u ++ ' ' :: v) := by
  intro t ht
  rw [scan_append_blank, List.mem_append] at ht
  rcases ht with ht | ht
  · exact hu t ht
  · obtain ⟨t', ht', rfl⟩ := List.mem_map.mp ht
    exact hP _ t' (hv t' ht')

theorem Every.of_lowered (hP : ∀ t, P t.lowered → P t) (h : Every P (s.map Char.toLower)) :
    Every P s := by
  intro t ht
  rw [Every, scan_map_toLower, List.forall_mem_map] at h
  exact hP t (h t ht)

/-- A text whose tokens separate nothing above a level. -/
def UpTo (n : Nat) (s : List Char) : Prop := Every (·.level ≤ n) s

theorem UpTo.mono (h : UpTo m s) (hmn : m ≤ n) : UpTo n s := fun t ht => (h t ht).trans hmn

theorem UpTo.append_blank (hu : UpTo n u) (hv : UpTo n v) : UpTo n (u ++ ' ' :: v) :=
  Every.append_blank (fun _ _ ht => ht) hu hv

end Levels

section Lexemes
variable {ds r : List Char} {c : Char}

theorem lexeme_of_isDigit (h : isDigit c = true) : lexeme c r = (some .number, runOf isDigit r) := by
  have harrow : c ≠ '→' := ne_of_apply_ne isDigit (h ▸ by decide)
  have hdash : c ≠ '-' := ne_of_apply_ne isDigit (h ▸ by decide)
  simp [lexeme, harrow, hdash, h]

theorem lexeme_of_isLetter (h : isLetter c = true) : lexeme c r = (some .word, wordRun r) := by
  have harrow : c ≠ '→' := ne_of_apply_ne isLetter (h ▸ by decide)
  have hdash : c ≠ '-' := ne_of_apply_ne isLetter (h ▸ by decide)
  simp [lexeme, harrow, hdash, excluded not_isLetter_of_isDigit h, h]

theorem wordRun_of_letters (h : ∀ c ∈ r, isLetter c = true) : wordRun r = r.length := by
  fun_induction wordRun r <;> simp_all

theorem scan_lexeme {kind : TokenKind} (h : lexeme c r = (some kind, r.length)) :
    scan (c :: r) = [⟨kind, c :: r, 0⟩] := by
  rw [scan, scanFrom_token (by rw [h]), h, List.take_length, List.drop_length, scanFrom]

theorem scan_digits (hne : ds ≠ []) (h : ∀ c ∈ ds, isDigit c = true) :
    scan ds = [⟨.number, ds, 0⟩] := by
  obtain ⟨c, r, rfl⟩ := List.exists_cons_of_ne_nil hne
  rw [List.forall_mem_cons] at h
  refine scan_lexeme ?_
  rw [lexeme_of_isDigit h.1, runOf, List.takeWhile_eq_self_iff.mpr h.2]

theorem scan_letters (h : ds.all isLetter = true ∧ ds ≠ []) : scan ds = [⟨.word, ds, 0⟩] := by
  obtain ⟨c, r, rfl⟩ := List.exists_cons_of_ne_nil h.2
  obtain ⟨hc, hr⟩ := List.forall_mem_cons.mp (List.all_eq_true.mp h.1)
  refine scan_lexeme ?_
  rw [lexeme_of_isLetter hc, wordRun_of_letters hr]

theorem upTo_letters {n : Nat} (h : ds.all isLetter = true ∧ ds ≠ [])
    (hlevel : Token.level ⟨.word, ds, 0⟩ ≤ n) : UpTo n ds := by
  rw [UpTo, Every, scan_letters h, List.forall_mem_singleton]
  exact hlevel

theorem decimal_eq_ofDigits (ds : List Char) :
    decimal ds = Nat.ofDigits 10 (ds.reverse.map fun c => (digitValue? c).getD 0) := by
  rw [decimal, ← List.foldr_reverse, Nat.ofDigits_eq_foldr, List.foldr_map]
  simp only [Nat.cast_id, Nat.add_comm]

end Lexemes

section Keywords
variable {part s u v : List Char} {k : String} {r : Resource}

/-- An occurrence that begins in `u` would begin an end of `u`, or go on from one. -/
theorem occursIn_append (h : ∀ w ∈ u.tails, w ≠ [] → ¬w <+: part ∧ ¬part <+: w) (v : List Char) :
    occursIn part (u ++ v) = occursIn part v := by
  induction u with
  | nil => rfl
  | cons c u ih =>
    rw [List.tails, List.forall_mem_cons] at h
    obtain ⟨hlong, hshort⟩ := h.1 (List.cons_ne_nil c u)
    have hno : part.isPrefixOf (c :: u ++ v) = false := by
      rw [Bool.eq_false_iff, Ne, List.isPrefixOf_iff_prefix]
      intro hprefix
      rcases List.prefix_or_prefix_of_prefix hprefix (List.prefix_append (c :: u) v) with hp | hp
      · exact hshort hp
      · exact hlong hp
    rw [List.cons_append, occursIn, ← List.cons_append, hno, ih h.2, Bool.false_or]

/-- A text in which no keyword begins, whatever stands behind it. -/
def Mute (s : List Char) : Prop :=
  ∀ k ∈ keywords, ∀ v, occursIn k.1.toList (s ++ v) = occursIn k.1.toList v

theorem Mute.append (hu : Mute u) (hv : Mute v) : Mute (u ++ v) := by
  intro k hk w
  rw [List.append_assoc, hu k hk, hv k hk]

theorem mute_of_not_isLetter (h : ∀ c ∈ s, isLetter c = false) : Mute s := by
  have hhead : ∀ k ∈ keywords, k.1.toList.head?.any isLetter = true := by decide
  intro k hk
  refine occursIn_append fun w hw hne => ?_
  obtain ⟨c, w, rfl⟩ := List.exists_cons_of_ne_nil hne
  have hc : isLetter c = false := h c (((List.mem_tails _ _).mp hw).subset List.mem_cons_self)
  have hk := hhead k hk
  cases hlist : k.1.toList with
  | nil => simp [hlist] at hk
  | cons d ds =>
    rw [hlist] at hk
    have hne : d ≠ c := by
      rintro rfl
      simp [hc] at hk
    simp [List.cons_prefix_cons, hne, hne.symm]

theorem keyword?_append (hk : (k, r) ∈ keywords) (hu : Mute u) (hs : lower s = u ++ k.toList) :
    keyword? s = some r := by
  -- no keyword occurs in another
  have hfirst : ∀ k ∈ keywords,
      (keywords.find? fun l => occursIn l.1.toList k.1.toList).map (·.2) = some k.2 := by
    decide
  have hfind : (keywords.find? fun l => occursIn l.1.toList (u ++ k.toList)) =
      keywords.find? fun l => occursIn l.1.toList k.toList :=
    List.find?_congr fun l hl => hu l hl k.toList
  unfold keyword?
  simp only [hs]
  rw [hfind, hfirst (k, r) hk]

end Keywords

end GuildCards.Effect

namespace GuildCards.Effect.Phrase
open Text Number

section Words
variable (n : Numeral) (k : Noun) (i : Item)

theorem Numeral.tight : Tight n.digits :=
  tight_of_not_blank n.nonempty fun c hc => not_isBlank_of_isDigit (n.digital c hc)

theorem Numeral.scan : scan n.digits = [⟨.number, n.digits, 0⟩] := scan_digits n.nonempty n.digital

theorem Numeral.upTo : UpTo 0 n.digits := by
  rw [UpTo, Every, n.scan, List.forall_mem_singleton]
  rfl

theorem Numeral.natural : natural n.digits = .ok n.value := by
  rw [Number.natural, if_pos n.short, decimal_eq_ofDigits, Numeral.value]

theorem Numeral.mute : Mute (n.digits ++ [' ']) := by
  apply mute_of_not_isLetter
  rw [List.forall_mem_append, List.forall_mem_singleton]
  exact ⟨fun c hc => not_isLetter_of_isDigit (n.digital c hc), by decide⟩

theorem Noun.tight : Tight k.letters := by
  have hends : ∀ k ∈ keywords, k.1.toList.head?.any (!isBlank ·) = true ∧
      k.1.toList.getLast?.any (!isBlank ·) = true := by decide
  apply Tight.of_lowered
  rw [k.spelled]
  exact ⟨(hends _ k.known).1, (hends _ k.known).2⟩

theorem Noun.ascii {c : Char} (hc : c ∈ k.letters) : c.toNat < 128 := by
  have hascii : ∀ k ∈ keywords, k.1.toList.all (·.toNat < 128) = true := by decide
  by_contra hge
  have hsame : c.toLower = c := Char.toLower_eq_of_not_isUpper (not_isUpper_of_ge (by omega))
  have hmem : c ∈ k.keyword.toList := k.spelled ▸ hsame ▸ List.mem_map_of_mem hc
  exact hge (by simpa using List.all_eq_true.mp (hascii _ k.known) c hmem)

theorem Item.tight : Tight i.text := i.count.tight.append [' '] i.noun.tight

/-- A property of numbers and of the tokens of a keyword, whatever their case and place, is one of the
tokens of an item. -/
theorem Item.every {P : Token → Prop} (hshift : ∀ j t, P t → P (t.shift j))
    (hcase : ∀ t, P t.lowered → P t) (hnumber : P ⟨.number, i.count.digits, 0⟩)
    (hkeyword : ∀ t ∈ Effect.scan i.noun.keyword.toList, P t) : Every P i.text := by
  refine Every.append_blank hshift ?_ (Every.of_lowered hcase ?_)
  · rw [Every, i.count.scan, List.forall_mem_singleton]
    exact hnumber
  · rw [i.noun.spelled]
    exact hkeyword

theorem keyword_tokens : ∀ k ∈ keywords, ∀ t ∈ Effect.scan k.1.toList,
    t.level = 0 ∧ (k.2 ∈ payables → t.isWord "discard" = false) := by
  decide +kernel

theorem Item.upTo : UpTo 0 i.text := by
  refine i.every (fun _ _ ht => ht) (fun t ht => level_lowered t ▸ ht) (le_refl 0) fun t ht => ?_
  exact (keyword_tokens _ i.noun.known t ht).1.le

theorem Item.not_discard (h : i.noun.resource ∈ payables) :
    Every (fun t => t.isWord "discard" = false) i.text := by
  refine i.every (fun _ _ ht => ht) (fun t ht => isWord_lowered _ t ▸ ht) rfl fun t ht => ?_
  exact (keyword_tokens _ i.noun.known t ht).2 h

theorem Item.scan : ∃ ts, scan i.text = ⟨.number, i.count.digits, 0⟩ :: ts := by
  rw [Item.text, scan_append_blank, i.count.scan]
  exact ⟨_, rfl⟩

theorem Item.lower {u : List Char} (hu : ∀ c ∈ u, c.toNat < 128) :
    lower (u ++ i.text) =
      u.map Char.toLower ++ ((i.count.digits ++ [' ']) ++ i.noun.keyword.toList) := by
  have hdigits : i.count.digits.map Char.toLower = i.count.digits := by
    have hid : ∀ c ∈ i.count.digits, c.toLower = id c := fun c hc =>
      toLower_of_not_isLetter (not_isLetter_of_isDigit (i.count.digital c hc))
    rw [List.map_congr_left hid, List.map_id]
  rw [lower_eq_map, List.map_append, Item.text, List.map_append, List.map_cons, hdigits,
    i.noun.spelled, List.append_assoc]
  · rfl
  · intro c hc
    rw [Item.text, List.mem_append, List.mem_append, List.mem_cons] at hc
    rcases hc with hc | hc | rfl | hc
    · exact .inl (hu c hc)
    · exact .inr (i.count.digital c hc)
    · exact .inl (by decide)
    · exact .inl (i.noun.ascii hc)

theorem Item.keyword? {u : List Char} (hu : ∀ c ∈ u, c.toNat < 128)
    (hmute : Mute (u.map Char.toLower)) : keyword? (u ++ i.text) = some i.noun.resource := by
  refine keyword?_append i.noun.known (hmute.append i.count.mute) ?_
  rw [i.lower hu, List.append_assoc, List.append_assoc, List.append_assoc]

end Words

end GuildCards.Effect.Phrase
