import Mathlib
import GuildCards.Proofs.Effect.Trimmed

/-!
What is compiled as one clause. Periods are left out wherever they stand, so the tokens of a clause
need not stand together; but what they span has them again as its own, with the same periods left
out. So a clause and each of its alternatives are compiled again from the texts that they show.
-/
namespace GuildCards.Effect
open Text Number

section Filtered
variable {α : Type} {p : α → Bool} {as g : List α}

/-- What is left of a list when some of its ends are cut off begins and ends with what is kept. -/
theorem exists_trimmed_filter (h : as.filter p = g) (hne : g ≠ []) :
    ∃ us, us <:+: as ∧ us.filter p = g ∧ us.head? = g.head? ∧ us.getLast? = g.getLast? := by
  -- the front ends before the first item that is kept, and the back begins behind the last one
  obtain ⟨a, g', rfl⟩ := List.exists_cons_of_ne_nil hne
  obtain ⟨front, bs, rfl, -, ha, hbs⟩ := List.filter_eq_cons_iff.mp h
  have hkeep : (a :: bs).filter p = a :: g' := by rw [List.filter_cons_of_pos ha, hbs]
  rw [← List.dropLast_concat_getLast hne] at hkeep
  obtain ⟨us, vs, hsplit, hus, hvs⟩ := List.filter_eq_append_iff.mp hkeep
  obtain ⟨ws, rest, rfl, hws, hlast, -⟩ := List.filter_eq_cons_iff.mp hvs
  let b := (a :: g').getLast hne
  have hprefix : us ++ ws ++ [b] <+: a :: bs := ⟨rest, by rw [hsplit]; simp [b]⟩
  refine ⟨us ++ ws ++ [b], hprefix.isInfix.trans (List.suffix_append front _).isInfix, ?_, ?_, ?_⟩
  · have hnone : ws.filter p = [] := List.filter_eq_nil_iff.mpr hws
    rw [List.filter_append, List.filter_append, hus, hnone, List.append_nil,
      List.filter_cons_of_pos hlast, List.filter_nil, List.dropLast_concat_getLast]
  · obtain ⟨c, cs, hcons⟩ := List.exists_cons_of_ne_nil (List.concat_ne_nil b (us ++ ws))
    rw [hcons] at hprefix ⊢
    rw [(List.cons_prefix_cons.mp hprefix).1]
    rfl
  · rw [List.getLast?_concat, List.getLast?_eq_some_getLast hne]

theorem exists_infix_filter (h : g <:+: as.filter p) (hne : g ≠ []) :
    ∃ us, us <:+: as ∧ us.filter p = g ∧ us.head? = g.head? ∧ us.getLast? = g.getLast? := by
  obtain ⟨x, y, hxy⟩ := h
  rw [List.append_assoc] at hxy
  obtain ⟨front, rest, rfl, -, hrest⟩ := List.filter_eq_append_iff.mp hxy.symm
  obtain ⟨mid, back, rfl, hmid, -⟩ := List.filter_eq_append_iff.mp hrest
  obtain ⟨us, hus, hsame⟩ := exists_trimmed_filter hmid hne
  exact ⟨us, hus.trans ⟨front, back, by rw [List.append_assoc]⟩, hsame⟩

end Filtered

def clauseTokens (s : List Char) : List Token := (scan s).filter (!·.isPeriod)

section Reread
variable {s : List Char} {g : List Token}

/-- Tokens that stand together but for periods are those of the text that they span. -/
theorem exists_reread (h : g <:+: clauseTokens s) (hne : g ≠ []) :
    ∃ k, span s g <+: s.drop k ∧ (clauseTokens (span s g)).map (Token.shift k) = g := by
  obtain ⟨us, ⟨pre, post, hscan⟩, hus, hhead, hlast⟩ := exists_infix_filter h hne
  obtain ⟨a, b, ha, hb⟩ := exists_ends hne
  have ha' : us.head? = some a := hhead.trans ha
  have hb' : us.getLast? = some b := hlast.trans hb
  have hspan : span s g = piece s a b := by
    rw [← span_eq_piece hscan.symm ha' hb']
    simp only [span, ha, hb, ha', hb']
  have hperiod : (fun t : Token => !t.isPeriod) ∘ Token.shift a.start = fun t => !t.isPeriod := rfl
  refine ⟨a.start, hspan ▸ List.take_prefix .., ?_⟩
  rw [hspan, clauseTokens, ← hperiod, ← List.filter_map, scan_piece hscan.symm ha' hb', hus]

theorem within_clauseTokens (s : List Char) : Within s (clauseTokens s) :=
  (within_scan s).subset List.filter_sublist.subset

theorem clauseTokens_ne_nil (h : g <:+: clauseTokens s) (hne : g ≠ []) :
    clauseTokens (span s g) ≠ [] := by
  obtain ⟨k, -, hg⟩ := exists_reread h hne
  rintro hnil
  rw [hnil] at hg
  exact hne hg.symm

theorem spanText_ne_empty (h : g <:+: clauseTokens s) (hne : g ≠ []) : spanText s g ≠ "" := by
  intro hempty
  apply clauseTokens_ne_nil h hne
  rw [spanText] at hempty
  rw [← String.toList_ofList (l := span s g), hempty]
  decide +kernel

theorem benefit_reread (h : g <:+: clauseTokens s) (hne : g ≠ []) :
    benefit (span s g) (clauseTokens (span s g)) = benefit s g := by
  obtain ⟨k, hprefix, hg⟩ := exists_reread h hne
  rw [← benefit_shift hprefix (within_clauseTokens _), hg]

theorem clause_reread (h : g <:+: clauseTokens s) (hne : g ≠ []) :
    clause (span s g) (clauseTokens (span s g)) = clause s g := by
  obtain ⟨k, hprefix, hg⟩ := exists_reread h hne
  rw [← clause_shift hprefix (within_clauseTokens _), hg]

end Reread

section Compiled
variable {text : String} {c : Clause} {b : Benefit}

theorem compile_of_ne_nil (h : clauseTokens text.toList ≠ []) :
    Clause.compile text = clause text.toList (clauseTokens text.toList) := by
  unfold Clause.compile
  simp only []
  split
  · contradiction
  · rfl

theorem clause_of_compile (h : Clause.compile text = .ok c) (hc : c.unrecognized? = none) :
    clauseTokens text.toList ≠ [] ∧ clause text.toList (clauseTokens text.toList) = .ok c := by
  have hne : clauseTokens text.toList ≠ [] := by
    intro hnil
    unfold Clause.compile at h
    rw [clauseTokens] at hnil
    simp only [hnil] at h
    obtain rfl := Except.ok.inj h
    cases hc
  exact ⟨hne, compile_of_ne_nil hne ▸ h⟩

theorem recompile (h : Clause.compile text = .ok c) (hc : c.unrecognized? = none) :
    Clause.compile c.source = .ok c := by
  obtain ⟨hne, hclause⟩ := clause_of_compile h hc
  have hsource : c.source.toList = span text.toList (clauseTokens text.toList) := by
    rw [clause_source hclause, spanText, String.toList_ofList]
  have hne' := clauseTokens_ne_nil List.infix_rfl hne
  rw [← hsource] at hne'
  rw [compile_of_ne_nil hne', hsource, clause_reread List.infix_rfl hne, hclause]

def Clause.offered : Clause → List Benefit
  | choice c => c.options
  | conditional c => c.nested
  | _ => []

theorem exists_of_mem_alternatives {s : List Char} {ts : List Token} {bs : List Benefit}
    (h : alternatives s ts = .ok bs) (hb : b ∈ bs) :
    ∃ g, g <:+: ts ∧ g ≠ [] ∧ (∀ t ∈ g, t.isWord "or" = false) ∧ benefit s g = .ok b := by
  obtain ⟨g, hg, hbenefit⟩ := exists_of_mem_mapM h hb
  obtain ⟨hcut, hne⟩ := List.mem_filter.mp hg
  obtain ⟨hin, hor⟩ := infix_of_mem_cutAt hcut
  exact ⟨g, hin, by simpa using hne, hor, hbenefit⟩

theorem exists_of_mem_offered (h : Clause.compile text = .ok c) (hb : b ∈ c.offered) :
    ∃ g, g <:+: clauseTokens text.toList ∧ g ≠ [] ∧ benefit text.toList g = .ok b := by
  have hc : c.unrecognized? = none := by
    cases c with
    | unrecognized s => cases hb
    | _ => rfl
  obtain ⟨-, hclause⟩ := clause_of_compile h hc
  cases compiledFrom hclause with
  | unrecognized => cases hb
  | gain _ _ => cases hb
  | choice halternatives _ _ =>
    obtain ⟨g, hin, hne, -, hbenefit⟩ := exists_of_mem_alternatives halternatives hb
    exact ⟨g, hin, hne, hbenefit⟩
  | conditional _ hafter harrowed =>
    rcases harrowed.nested_eq with hnil | halternatives
    · rw [Clause.offered, hnil] at hb
      cases hb
    · obtain ⟨g, hg, hne, -, hbenefit⟩ := exists_of_mem_alternatives halternatives hb
      exact ⟨g, hg.trans hafter, hne, hbenefit⟩

theorem benefit_of_offered (h : Clause.compile text = .ok c) (hb : b ∈ c.offered) :
    benefit b.text.toList (clauseTokens b.text.toList) = .ok b := by
  obtain ⟨g, hin, hne, hbenefit⟩ := exists_of_mem_offered h hb
  rw [benefit_text hbenefit, spanText, String.toList_ofList, benefit_reread hin hne, hbenefit]

theorem offered_named (h : Clause.compile text = .ok c) (hb : b ∈ c.offered) :
    trim b.text = b.text ∧ b.text ≠ "" := by
  obtain ⟨g, hin, hne, hbenefit⟩ := exists_of_mem_offered h hb
  rw [benefit_text hbenefit]
  exact ⟨trim_spanText _ g, spanText_ne_empty hin hne⟩

end Compiled

section Whole
variable {s u v : List Char} {g ts : List Token} {text : String} {c : Conditional}

def lowerWidth (c : Char) : Nat := if c.toNat = 0x130 then 2 else 1

theorem length_lower (s : List Char) : (lower s).length = (s.map lowerWidth).sum := by
  have hchar (before after : List Char) (c : Char) :
      (lowerChar before c after).length = lowerWidth c := by
    unfold lowerChar lowerWidth
    split_ifs <;> first | rfl | omega
  have hfrom (before : List Char) : (lowerFrom before s).length = (s.map lowerWidth).sum := by
    induction s generalizing before with
    | nil => rfl
    | cons c s ih => rw [lowerFrom, List.length_append, hchar, ih, List.map_cons, List.sum_cons]
  exact hfrom []

/-- A part of a text is as long as the whole in lower case only if it is the whole. -/
theorem eq_of_infix_of_lower (h : u <:+: v) (hlower : lower u = lower v) : u = v := by
  obtain ⟨x, y, rfl⟩ := h
  have hwidth : (x.map lowerWidth).sum + (y.map lowerWidth).sum = 0 := by
    have hlength := congrArg List.length hlower
    simp only [length_lower, List.map_append, List.sum_append] at hlength
    omega
  have hnil {z : List Char} (hz : (z.map lowerWidth).sum = 0) : z = [] := by
    cases z with
    | nil => rfl
    | cons c z =>
      have hpos : 0 < lowerWidth c := by
        unfold lowerWidth
        split_ifs <;> omega
      rw [List.map_cons, List.sum_cons] at hz
      omega
  rw [hnil (by omega : (x.map lowerWidth).sum = 0), hnil (by omega : (y.map lowerWidth).sum = 0),
    List.nil_append, List.append_nil]

theorem isInfix_strip (s : List Char) : strip s <:+: s := by
  have hback : (s.dropWhile isBlank).reverse.dropWhile isBlank <:+ (s.dropWhile isBlank).reverse :=
    List.dropWhile_suffix isBlank
  have hfront := List.reverse_prefix.mpr hback
  rw [List.reverse_reverse] at hfront
  exact hfront.isInfix.trans (List.dropWhile_suffix isBlank).isInfix

theorem isInfix_span (s : List Char) (ts : List Token) : span s ts <:+: s := by
  unfold span
  split
  · exact (isInfix_strip _).trans ((List.take_prefix ..).isInfix.trans (List.drop_suffix ..).isInfix)
  · exact List.nil_infix

theorem eq_of_span_eq (hts : ts <:+: clauseTokens s) (hg : g <:+: ts) (hne : g ≠ [])
    (h : span s g = span s ts) : g = ts := by
  obtain ⟨k, -, hk⟩ := exists_reread (hg.trans hts) hne
  have hne' : ts ≠ [] := by
    rintro rfl
    exact hne (List.infix_nil.mp hg)
  obtain ⟨k', -, hk'⟩ := exists_reread hts hne'
  have hlength : g.length = ts.length := by
    rw [← hk, ← hk', List.length_map, List.length_map, h]
  exact hg.eq_of_length hlength

theorem isInfix_span_span (hts : ts <:+: clauseTokens s) (hg : g <:+: ts) (hne : ts ≠ []) :
    span s g <:+: span s ts := by
  obtain ⟨k, hprefix, hk⟩ := exists_reread hts hne
  obtain ⟨g', hg', rfl⟩ := List.infix_map_iff.mp (hk.symm ▸ hg)
  rw [span_shift hprefix ((within_clauseTokens _).subset hg'.subset)]
  exact isInfix_span _ _

/-- The text of all nested benefits together is the name of none of them. -/
theorem find?_whole (h : Clause.compile text = .ok (.conditional c)) (hne : c.nested ≠ []) :
    c.find? c.benefit.text = none := by
  obtain ⟨-, hclause⟩ := clause_of_compile h rfl
  cases compiledFrom hclause with | @conditional _ _ after _ hafter harrowed =>
  cases harrowed with
  | single _ _ _ _ _ => exact absurd rfl hne
  | nested _ _ hany halternatives _ =>
    refine List.find?_eq_none.mpr fun b hb hmatch => ?_
    obtain ⟨g, hg, hgne, hor, hbenefit⟩ := exists_of_mem_alternatives halternatives hb
    obtain ⟨t, ht, htor⟩ := List.any_eq_true.mp hany
    -- in lower case the two texts would be of one length, though the word between them is in one only
    have hsame : g = after := by
      refine eq_of_span_eq hafter hg hgne ?_
      have hkey := congrArg String.toList (matches_iff.mp hmatch)
      rw [nameKey, nameKey, benefit_text hbenefit, trim_spanText, trim_spanText, lowercase,
        lowercase, String.toList_ofList, String.toList_ofList, spanText, spanText,
        String.toList_ofList, String.toList_ofList] at hkey
      exact eq_of_infix_of_lower (isInfix_span_span hafter hg (List.ne_nil_of_mem ht)) hkey
    rw [hsame] at hor
    rw [hor t ht] at htor
    cases htor

end Whole

theorem Conditional.recalls_find? {text name : String} {c : Conditional}
    (h : Clause.compile text = .ok (.conditional c)) (hne : c.nested ≠ []) :
    c.Recalls ((c.find? name).getD c.benefit) := by
  unfold Recalls
  rw [if_neg hne]
  cases hfind : c.find? name with
  | none => rw [Option.getD_none, find?_whole h hne, Option.getD_none]
  | some b =>
    have hagain : c.find? b.text = some b := find?_text hfind
    rw [Option.getD_some, hagain, Option.getD_some]

end GuildCards.Effect
