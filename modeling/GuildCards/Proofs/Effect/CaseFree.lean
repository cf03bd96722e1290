import Mathlib
import GuildCards.Proofs.Effect.Plain

/-!
Compilation is blind to letter case. The plain form of a text is compiled to the clauses of the text,
in the same order and with the same deltas, costs and alternatives: only the texts that they show
differ. Texts that differ in letter case have one plain form.
-/
namespace GuildCards.Effect
open Text Number

def Benefit.bare (b : Benefit) : Benefit := { b with text := "" }

def Cost.bare (c : Cost) : Cost := { c with text := "" }

def Clause.bare : Clause → Clause
  | gain _ ds => gain "" ds
  | conditional c => conditional ⟨"", c.cost.bare, c.benefit.bare, c.nested.map Benefit.bare⟩
  | choice c => choice ⟨"", c.options.map Benefit.bare⟩
  | unrecognized _ => unrecognized ""

section Tokens
variable {text : List Char} {ts : List Token} {w : String}

theorem map_toLower_plain_iff {k : List Char} (hk : ∀ d ∈ k, d.toNat < 128) (s : List Char) :
    (s.map plain).map Char.toLower = k ↔ s.map Char.toLower = k := by
  induction s generalizing k with
  | nil => rfl
  | cons c s ih =>
    cases k with
    | nil => simp
    | cons d k =>
      rw [List.forall_mem_cons] at hk
      simp only [List.map_cons, List.cons.injEq, toLower_plain_eq_iff hk.1, ih hk.2]

def guideWords : List String := ["and", "or", "discard", "pay", "spend"]

theorem isWord_plain (hw : w ∈ guideWords) :
    Token.isWord w ∘ Token.mapped plain = Token.isWord w := by
  have hascii : ∀ w ∈ guideWords, ∀ d ∈ w.toList, d.toNat < 128 := by simp [guideWords]
  funext t
  simp only [Function.comp_apply, Token.isWord, Token.mapped, map_toLower_plain_iff (hascii w hw)]
  rfl

theorem any_isWord_plain (hw : w ∈ guideWords) :
    (ts.map (Token.mapped plain)).any (Token.isWord w) = ts.any (Token.isWord w) := by
  rw [List.any_map, isWord_plain hw]

theorem natural_plain (s : List Char) : natural (s.map plain) = natural s := by
  have hdecimal : decimal (s.map plain) = decimal s := by
    simp only [decimal, List.foldl_map, digitValue?_plain]
  rw [natural, natural, List.length_map, hdecimal]

theorem amount_plain : amount (ts.map (Token.mapped plain)) = amount ts := by
  have hnumber : Token.isNumber ∘ Token.mapped plain = Token.isNumber := rfl
  rw [amount, amount, List.find?_map, hnumber]
  cases ts.find? Token.isNumber with
  | none => rfl
  | some t => simp only [Option.map_some, Token.mapped, natural_plain]

theorem strip_plain (s : List Char) : strip (s.map plain) = (strip s).map plain := by
  have hblank : isBlank ∘ plain = isBlank := funext keepsClasses_plain.blank
  simp only [strip, stripBy, List.dropWhile_map, ← List.map_reverse, hblank]

theorem span_plain :
    span (text.map plain) (ts.map (Token.mapped plain)) = (span text ts).map plain := by
  have hstop (t : Token) : (t.mapped plain).stop = t.stop := by
    rw [Token.stop, Token.mapped, List.length_map, Token.stop]
  unfold span
  rw [List.head?_map, List.getLast?_map]
  cases ts.head? with
  | none => rfl
  | some a =>
    cases ts.getLast? with
    | none => rfl
    | some b =>
      simp only [Option.map_some, hstop]
      rw [← strip_plain, List.map_take, List.map_drop]
      rfl

theorem keyword?_span_plain :
    keyword? (span (text.map plain) (ts.map (Token.mapped plain))) = keyword? (span text ts) := by
  rw [span_plain, keyword?_plain]

end Tokens

section Parts
variable {text : List Char} {ts : List Token}

theorem part_plain :
    Effect.part (text.map plain) (ts.map (Token.mapped plain)) = Effect.part text ts := by
  unfold Effect.part
  rw [keyword?_span_plain]
  cases ts with
  | nil => rfl
  | cons t ts =>
    cases keyword? (span text (t :: ts)) with
    | none => rfl
    | some r =>
      change (amount ((t :: ts).map (Token.mapped plain))).map _ = _
      rw [amount_plain]

theorem cutAt_plain {w : String} (hw : w ∈ guideWords) :
    cutAt (Token.isWord w) (ts.map (Token.mapped plain)) =
      (cutAt (Token.isWord w) ts).map (List.map (Token.mapped plain)) := by
  rw [cutAt_map, isWord_plain hw]

theorem filter_nonempty_plain (gs : List (List Token)) :
    (gs.map (List.map (Token.mapped plain))).filter (!·.isEmpty) =
      (gs.filter (!·.isEmpty)).map (List.map (Token.mapped plain)) := by
  have hempty : ((fun g : List Token => !g.isEmpty) ∘ List.map (Token.mapped plain)) =
      fun g => !g.isEmpty := by
    funext g
    rw [Function.comp_apply, List.isEmpty_map]
  rw [List.filter_map, hempty]

theorem benefit_plain :
    (benefit (text.map plain) (ts.map (Token.mapped plain))).map Benefit.bare =
      (benefit text ts).map Benefit.bare := by
  have hparts : (cutAt (Token.isWord "and") (ts.map (Token.mapped plain))).mapM
      (Effect.part (text.map plain)) = (cutAt (Token.isWord "and") ts).mapM (Effect.part text) := by
    rw [cutAt_plain (by decide), List.mapM_map]
    exact mapM_congr fun g _ => part_plain
  rw [benefit, benefit, hparts]
  cases (cutAt (Token.isWord "and") ts).mapM (Effect.part text) <;> rfl

theorem alternatives_plain :
    (alternatives (text.map plain) (ts.map (Token.mapped plain))).map (List.map Benefit.bare) =
      (alternatives text ts).map (List.map Benefit.bare) := by
  rw [alternatives, cutAt_plain (by decide), filter_nonempty_plain, List.mapM_map]
  exact map_mapM_congr fun g _ => benefit_plain

theorem hasAlternatives_plain :
    hasAlternatives (ts.map (Token.mapped plain)) = hasAlternatives ts :=
  any_isWord_plain (by decide)

theorem grantsAny_bare (bs : List Benefit) : grantsAny (bs.map Benefit.bare) = grantsAny bs := by
  rw [grantsAny, List.any_map, grantsAny]
  rfl

theorem cost?_plain :
    (cost? (text.map plain) (ts.map (Token.mapped plain))).map (Option.map Cost.bare) =
      (cost? text ts).map (Option.map Cost.bare) := by
  have hpaid : (ts.map (Token.mapped plain)).any (fun t => t.isWord "pay" || t.isWord "spend") =
      ts.any fun t => t.isWord "pay" || t.isWord "spend" := by
    have hpay (t : Token) : (t.mapped plain).isWord "pay" = t.isWord "pay" :=
      congrFun (isWord_plain (by decide)) t
    have hspend (t : Token) : (t.mapped plain).isWord "spend" = t.isWord "spend" :=
      congrFun (isWord_plain (by decide)) t
    simp only [List.any_map, Function.comp_def, hpay, hspend]
  unfold cost?
  rw [amount_plain, any_isWord_plain (by decide), hpaid, keyword?_span_plain]
  cases amount ts with
  | error e => rfl
  | ok n =>
    rw [ok_bind, ok_bind]
    split_ifs
    · rfl
    · cases (keyword? (span text ts)).filter isPayable <;> rfl
    · rfl

end Parts

section Clauses
variable {text : List Char} {ts before after : List Token}

theorem cost?_cases {x y : Option Cost} (h : x.map Cost.bare = y.map Cost.bare) :
    x = none ∧ y = none ∨ ∃ c d, x = some c ∧ y = some d ∧ c.bare = d.bare := by
  cases x with
  | none =>
    cases y with
    | none => exact .inl ⟨rfl, rfl⟩
    | some d => cases h
  | some c =>
    cases y with
    | none => cases h
    | some d => exact .inr ⟨c, d, rfl, rfl, Option.some.inj h⟩

theorem deltas_congr {a b : Benefit} (h : a.bare = b.bare) : a.deltas = b.deltas :=
  (Benefit.mk.inj h).2

theorem grantsAny_congr {bs cs : List Benefit} (h : bs.map Benefit.bare = cs.map Benefit.bare) :
    grantsAny bs = grantsAny cs := by
  rw [← grantsAny_bare, h, grantsAny_bare]

theorem conditional_bare {source source' : String} {c d : Cost} {a b : Benefit}
    {bs cs : List Benefit} (hc : c.bare = d.bare) (hb : a.bare = b.bare)
    (hbs : bs.map Benefit.bare = cs.map Benefit.bare) :
    (Clause.conditional ⟨source, c, a, bs⟩).bare = (Clause.conditional ⟨source', d, b, cs⟩).bare := by
  simp only [Clause.bare, hc, hb, hbs]

theorem conditional_plain (source source' : String) :
    (conditional (text.map plain) source' (before.map (Token.mapped plain))
        (after.map (Token.mapped plain))).map Clause.bare =
      (conditional text source before after).map Clause.bare := by
  unfold conditional
  rw [List.isEmpty_map, List.isEmpty_map, hasAlternatives_plain]
  split_ifs with hempty halternatives
  · rfl
  · refine map_bind_congr cost?_plain fun cost cost' hcost => ?_
    obtain ⟨rfl, rfl⟩ | ⟨c, d, rfl, rfl, hcd⟩ := cost?_cases hcost
    · rfl
    refine map_bind_congr alternatives_plain fun bs cs hbcs => ?_
    rw [grantsAny_congr hbcs]
    split_ifs
    · exact congrArg Except.ok (conditional_bare hcd rfl hbcs)
    · rfl
  · refine map_bind_congr cost?_plain fun cost cost' hcost => ?_
    obtain ⟨rfl, rfl⟩ | ⟨c, d, rfl, rfl, hcd⟩ := cost?_cases hcost
    · rfl
    refine map_bind_congr benefit_plain fun a b hab => ?_
    rw [deltas_congr hab]
    split_ifs
    · exact congrArg Except.ok (conditional_bare hcd hab rfl)
    · rfl

theorem choice_plain (source source' : String) :
    (choice (text.map plain) source' (ts.map (Token.mapped plain))).map Clause.bare =
      (choice text source ts).map Clause.bare := by
  unfold choice
  refine map_bind_congr alternatives_plain fun bs cs hbcs => ?_
  have hlength : bs.length = cs.length := by
    simpa only [List.length_map] using congrArg List.length hbcs
  rw [hlength, grantsAny_congr hbcs]
  split_ifs
  · change Except.ok (Clause.choice ⟨"", _⟩) = Except.ok (Clause.choice ⟨"", _⟩)
    rw [hbcs]
  · rfl

theorem gain_plain (source source' : String) :
    (gain (text.map plain) source' (ts.map (Token.mapped plain))).map Clause.bare =
      (gain text source ts).map Clause.bare := by
  unfold gain
  refine map_bind_congr benefit_plain fun a b hab => ?_
  rw [deltas_congr hab]
  split_ifs <;> rfl

theorem clause_plain (text : List Char) (ts : List Token) :
    (clause (text.map plain) (ts.map (Token.mapped plain))).map Clause.bare =
      (clause text ts).map Clause.bare := by
  have harrow : (fun t : Token => !t.isArrow) ∘ Token.mapped plain = fun t => !t.isArrow := rfl
  have hany : (ts.map (Token.mapped plain)).any Token.isArrow = ts.any Token.isArrow := by
    rw [List.any_map]
    rfl
  unfold clause
  rw [hany, hasAlternatives_plain, List.takeWhile_map, List.dropWhile_map, ← List.map_drop, harrow]
  split_ifs
  · exact conditional_plain _ _
  · exact choice_plain _ _
  · exact gain_plain _ _

end Clauses

section Texts
variable {s t : String}

def plainText (s : String) : String := String.ofList (s.toList.map plain)

theorem toList_plainText (s : String) : (plainText s).toList = s.toList.map plain :=
  String.toList_ofList

theorem compile_program_plain (s : String) :
    (Program.compile (plainText s)).map (fun p => p.clauses.map Clause.bare) =
      (Program.compile s).map fun p => p.clauses.map Clause.bare := by
  have hperiod : Token.isPeriod ∘ Token.mapped plain = Token.isPeriod := rfl
  unfold Program.compile
  simp only [toList_plainText, scan_map keepsClasses_plain, cutAt_map, hperiod,
    filter_nonempty_plain, List.mapM_map]
  exact map_bind_congr (map_mapM_congr fun g _ => clause_plain s.toList g)
    fun cs ds h => congrArg Except.ok h

theorem compile_clause_plain (s : String) :
    (Clause.compile (plainText s)).map Clause.bare = (Clause.compile s).map Clause.bare := by
  have hperiod : (fun t : Token => !t.isPeriod) ∘ Token.mapped plain = fun t => !t.isPeriod := rfl
  unfold Clause.compile
  simp only [toList_plainText, scan_map keepsClasses_plain, List.filter_map, hperiod]
  cases (scan s.toList).filter (!·.isPeriod) with
  | nil => simp only [List.map_nil, Except.map, Clause.bare]
  | cons t ts => exact clause_plain s.toList (t :: ts)

theorem compile_benefit_plain (s : String) :
    (Benefit.compile (plainText s)).map Benefit.bare = (Benefit.compile s).map Benefit.bare := by
  unfold Benefit.compile
  simp only [toList_plainText, scan_map keepsClasses_plain]
  cases scan s.toList with
  | nil => simp only [List.map_nil, Except.map, Benefit.bare]
  | cons t ts => exact benefit_plain

/-- Texts with one plain form are read alike by what reads each text as it reads its plain form. -/
theorem exists_alike {ε α γ : Type} {read : String → Except ε α} {h : α → γ} {a : α}
    (hread : ∀ s, (read (plainText s)).map h = (read s).map h) (hst : plainText t = plainText s)
    (ha : read s = .ok a) : ∃ b, read t = .ok b ∧ h b = h a := by
  have hsame : (read t).map h = (read s).map h := by rw [← hread, hst, hread]
  exact exists_of_map_eq hsame ha

end Texts

section Recased
variable {c d : Char} {s t : String}

/-- The same character, or the same ASCII letter in one case or the other. -/
def Recased (c d : Char) : Prop :=
  d = c ∨ isLetter c = true ∧ (d = c.toLower ∨ d = c.toUpper)

instance (c d : Char) : Decidable (Recased c d) :=
  inferInstanceAs (Decidable (d = c ∨ isLetter c = true ∧ (d = c.toLower ∨ d = c.toUpper)))

theorem plain_of_isLetter (h : isLetter c = true) :
    plain c.toLower = plain c ∧ plain c.toUpper = plain c := by
  have hsmall : ∀ n, n < 128 → isLetter (Char.ofNat n) = true →
      plain (Char.ofNat n).toLower = plain (Char.ofNat n) ∧
        plain (Char.ofNat n).toUpper = plain (Char.ofNat n) := by decide +kernel
  have hlt : c.toNat < 128 := by
    by_contra hge
    rw [not_isLetter_of_ge (not_lt.mp hge)] at h
    cases h
  simpa only [Char.ofNat_toNat, h, true_imp_iff] using hsmall c.toNat hlt

theorem plain_recased (h : Recased c d) : plain d = plain c := by
  rcases h with rfl | ⟨hletter, rfl | rfl⟩
  · rfl
  · exact (plain_of_isLetter hletter).1
  · exact (plain_of_isLetter hletter).2

theorem plainText_recased (h : List.Forall₂ Recased s.toList t.toList) :
    plainText t = plainText s := by
  have hmap : t.toList.map plain = s.toList.map plain := by
    rw [← List.forall₂_eq_eq_eq, List.forall₂_map_left_iff, List.forall₂_map_right_iff]
    exact h.flip.imp fun d c hcd => plain_recased hcd
  rw [plainText, hmap, plainText]

end Recased

/-- Compilation ignores letter case. Of a text without too long a numeral and the same text with
any of its ASCII letters in another case, the programs have as many clauses, and each clause is the
same but for the texts that it shows: of the same kind, with the same deltas, the same cost and as
many options or nested benefits, each with the same deltas. So it is when the texts are compiled as
one clause, and when they are compiled as one benefit. -/
theorem case_ignored {s t : String} (h : List.Forall₂ Recased s.toList t.toList)
    (hs : ShortRuns s.toList) :
    (∃ p q, Program.compile s = .ok p ∧ Program.compile t = .ok q ∧
      q.clauses.map Clause.bare = p.clauses.map Clause.bare) ∧
    (∃ c d, Clause.compile s = .ok c ∧ Clause.compile t = .ok d ∧ d.bare = c.bare) ∧
    ∃ a b, Benefit.compile s = .ok a ∧ Benefit.compile t = .ok b ∧ b.bare = a.bare := by
  have hplain := plainText_recased h
  refine ⟨?_, ?_, ?_⟩
  · obtain ⟨p, hp⟩ := exists_program hs
    obtain ⟨q, hq, hpq⟩ := exists_alike compile_program_plain hplain hp
    exact ⟨p, q, hp, hq, hpq⟩
  · obtain ⟨c, hc⟩ := exists_compiled_clause hs
    obtain ⟨d, hd, hcd⟩ := exists_alike compile_clause_plain hplain hc
    exact ⟨c, d, hc, hd, hcd⟩
  · obtain ⟨a, ha⟩ := exists_compiled_benefit hs
    obtain ⟨b, hb, hab⟩ := exists_alike compile_benefit_plain hplain ha
    exact ⟨a, b, ha, hb, hab⟩

/-- A cost for a choice and a gain, with some of their letters in another case; the sign for kelvin
is no letter of a word. -/
theorem case_ignored_sample :
    ShortRuns "Pay 2 gold -> 1 army or \u212A 3 VP. Take 4".toList ∧
      ∃ p q, Program.compile "Pay 2 gold -> 1 army or \u212A 3 VP. Take 4" = .ok p ∧
        Program.compile "pAY 2 Gold -> 1 ARMY oR \u212A 3 vP. taKE 4" = .ok q ∧
        q.clauses.map Clause.bare = p.clauses.map Clause.bare ∧
        p.clauses.map Clause.bare =
          [.conditional ⟨"", ⟨.pay, "", 2, some (.counter .gold)⟩, ⟨"", []⟩,
            [⟨"", [⟨.army, 1⟩]⟩, ⟨"", [⟨.counter .victoryPoints, 3⟩]⟩]⟩,
          .gain "" [⟨.counter .take, 4⟩]] := by
  have hshort : ShortRuns "Pay 2 gold -> 1 army or \u212A 3 VP. Take 4".toList := by
    intro run hrun _
    exact hrun.length_le.trans (by decide)
  have hcase : List.Forall₂ Recased "Pay 2 gold -> 1 army or \u212A 3 VP. Take 4".toList
      "pAY 2 Gold -> 1 ARMY oR \u212A 3 vP. taKE 4".toList := by
    decide +kernel
  have hvalue : (Program.compile "Pay 2 gold -> 1 army or \u212A 3 VP. Take 4").map
      (fun p => p.clauses.map Clause.bare) =
        .ok [.conditional ⟨"", ⟨.pay, "", 2, some (.counter .gold)⟩, ⟨"", []⟩,
            [⟨"", [⟨.army, 1⟩]⟩, ⟨"", [⟨.counter .victoryPoints, 3⟩]⟩]⟩,
          .gain "" [⟨.counter .take, 4⟩]] := by
    decide +kernel
  obtain ⟨⟨p, q, hp, hq, hpq⟩, -, -⟩ := case_ignored hcase hshort
  rw [hp] at hvalue
  exact ⟨hshort, p, q, hp, hq, hpq, Except.ok.inj hvalue⟩

end GuildCards.Effect
