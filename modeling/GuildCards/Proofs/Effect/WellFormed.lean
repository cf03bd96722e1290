import Mathlib
import GuildCards.Proofs.Effect.Reread
import GuildCards.Proofs.Effect.Sentences

/-!
The form of what is compiled. Separators that lead, trail or stand side by side leave groups without
tokens, and a group with tokens may name nothing; no text of a clause comes from the ones, and no
clause from the others alone. So every option can be shown and chosen, every clause does something,
and no cost asks for what cannot be paid.
-/
namespace GuildCards.Effect
open Text Number

/-- A text that is a part of another, is not empty and has no blanks around it. -/
structure ShownIn (whole s : String) : Prop where
  inside : s.toList <:+: whole.toList
  trimmed : trim s = s
  nonempty : s ≠ ""

theorem ShownIn.nameKey_ne_empty {whole s : String} (h : ShownIn whole s) : nameKey s ≠ "" := by
  rw [nameKey, h.trimmed, lowercase]
  intro hempty
  apply lower_ne_nil (mt String.toList_eq_nil_iff.mp h.nonempty)
  simpa using congrArg String.toList hempty

def Clause.texts : Clause → List String
  | .gain source _ => [source]
  | .conditional c => c.source :: c.cost.text :: (c.benefit :: c.nested).map (·.text)
  | .choice c => c.source :: c.options.map (·.text)
  | .unrecognized source => [source]

/-- A cost is paid from a resource that can pay, or from none by discarding cards. -/
inductive Cost.WellFormed (c : Cost) : Prop where
  | pay (r : Resource) (hkind : c.kind = .pay) (hfrom : c.resource = some r)
    (hpays : r ∈ [.army, .counter .gold, .counter .knowledge, .counter .victoryPoints])
  | discard (hkind : c.kind = .discard) (hfrom : c.resource = none)

/-- What a clause is for. A conditional either grants something itself or has some nested benefit
that does, and then only shows their text. -/
def Clause.Serves : Clause → Prop
  | .gain _ deltas => deltas ≠ []
  | .conditional c => c.cost.WellFormed ∧
      (c.nested = [] ∧ c.benefit.deltas ≠ [] ∨
        c.benefit.deltas = [] ∧ ∃ b ∈ c.nested, b.deltas ≠ [])
  | .choice c => 2 ≤ c.options.length ∧ ∃ b ∈ c.options, b.deltas ≠ []
  | .unrecognized _ => True

/-- What can be relied on of a clause that is compiled from a text. -/
structure Clause.WellFormed (whole : String) (c : Clause) : Prop where
  shown : ∀ s ∈ c.texts, ShownIn whole s
  serves : c.Serves
  nonneg : ∀ n ∈ c.amounts, 0 ≤ n

section Shown
variable {text : String} {ts : List Token}

theorem shown_span (hts : ts <:+: clauseTokens text.toList) (hne : ts ≠ []) :
    ShownIn text (spanText text.toList ts) where
  inside := by
    rw [spanText, String.toList_ofList]
    exact isInfix_span _ ts
  trimmed := trim_spanText _ ts
  nonempty := spanText_ne_empty hts hne

theorem shown_benefit {b : Benefit} (hts : ts <:+: clauseTokens text.toList) (hne : ts ≠ [])
    (h : benefit text.toList ts = .ok b) : ShownIn text b.text := by
  rw [benefit_text h]
  exact shown_span hts hne

theorem shown_alternatives {bs : List Benefit} (hts : ts <:+: clauseTokens text.toList)
    (h : alternatives text.toList ts = .ok bs) : ∀ s ∈ bs.map (·.text), ShownIn text s := by
  intro s hs
  obtain ⟨b, hb, rfl⟩ := List.mem_map.mp hs
  obtain ⟨g, hg, hne, -, hbenefit⟩ := exists_of_mem_alternatives h hb
  exact shown_benefit (hg.trans hts) hne hbenefit

theorem shown_cost {cost : Cost} (hts : ts <:+: clauseTokens text.toList) (hne : ts ≠ [])
    (h : cost? text.toList ts = .ok (some cost)) : ShownIn text cost.text := by
  cases priced h with
  | discard _ => exact shown_span hts hne
  | pay _ _ => exact shown_span hts hne

theorem shown_clause {c : Clause} (hts : ts <:+: clauseTokens text.toList) (hne : ts ≠ [])
    (h : clause text.toList ts = .ok c) : ∀ s ∈ c.texts, ShownIn text s := by
  have hsource := shown_span hts hne
  cases compiledFrom h with
  | unrecognized => exact List.forall_mem_singleton.mpr hsource
  | gain _ _ => exact List.forall_mem_singleton.mpr hsource
  | choice halternatives _ _ =>
    exact List.forall_mem_cons.mpr ⟨hsource, shown_alternatives hts halternatives⟩
  | conditional hbefore hafter harrowed =>
    cases harrowed with
    | nested hne' hcost hor halternatives _ =>
      obtain ⟨t, ht, -⟩ := List.any_eq_true.mp hor
      simp only [Clause.texts, List.map_cons, List.forall_mem_cons]
      exact ⟨hsource, shown_cost (hbefore.trans hts) hne' hcost,
        shown_span (hafter.trans hts) (List.ne_nil_of_mem ht),
        shown_alternatives (hafter.trans hts) halternatives⟩
    | single hne' hne'' hcost hbenefit _ =>
      simp only [Clause.texts, List.map_cons, List.map_nil, List.forall_mem_cons]
      exact ⟨hsource, shown_cost (hbefore.trans hts) hne' hcost,
        shown_benefit (hafter.trans hts) hne'' hbenefit, List.forall_mem_nil _⟩

end Shown

section Serves
variable {text : List Char} {ts : List Token}

theorem grantsAny_iff {bs : List Benefit} : grantsAny bs = true ↔ ∃ b ∈ bs, b.deltas ≠ [] := by
  simp [grantsAny]

theorem wellFormed_cost {cost : Cost} (h : cost? text ts = .ok (some cost)) : cost.WellFormed := by
  cases priced h with
  | discard _ => exact .discard rfl rfl
  | pay _ hpay => exact .pay _ rfl rfl (by simpa [isPayable, or_assoc] using hpay)

theorem serves_clause {c : Clause} (h : clause text ts = .ok c) : c.Serves := by
  cases compiledFrom h with
  | unrecognized => trivial
  | gain _ hgrants => exact hgrants
  | choice _ htwo hgrants => exact ⟨htwo, grantsAny_iff.mp hgrants⟩
  | conditional _ _ harrowed =>
    cases harrowed with
    | nested _ hcost _ _ hgrants =>
      exact ⟨wellFormed_cost hcost, .inr ⟨rfl, grantsAny_iff.mp hgrants⟩⟩
    | single _ _ hcost _ hgrants => exact ⟨wellFormed_cost hcost, .inl ⟨rfl, hgrants⟩⟩

end Serves

section Clauses
variable {text : String} {c : Clause}

theorem wellFormed_clause {ts : List Token} (hts : ts <:+: clauseTokens text.toList) (hne : ts ≠ [])
    (h : clause text.toList ts = .ok c) : c.WellFormed text where
  shown := shown_clause hts hne h
  serves := serves_clause h
  nonneg n hn := (legible_clause h n hn).nonneg

theorem wellFormed_of_mem_clauses {prog : Program} (h : Program.compile text = .ok prog)
    (hc : c ∈ prog.clauses) : c.WellFormed text := by
  obtain ⟨ts, hne, hin, hperiod, hclause⟩ := exists_of_mem_clauses h hc
  -- no period is among the tokens of a sentence, so they stand together among the others too
  have hfilter : ts.filter (!·.isPeriod) = ts :=
    List.filter_eq_self.mpr fun t ht => by simp [hperiod t ht]
  have hts : ts <:+: clauseTokens text.toList := hfilter ▸ hin.filter _
  exact wellFormed_clause hts hne hclause

theorem shown_of_mem_offered {prog : Program} {b : Benefit} (h : Program.compile text = .ok prog)
    (hc : c ∈ prog.clauses) (hb : b ∈ c.offered) : ShownIn text b.text := by
  refine (wellFormed_of_mem_clauses h hc).shown _ ?_
  cases c with
  | gain _ _ => cases hb
  | choice _ => exact List.mem_cons_of_mem _ (List.mem_map_of_mem hb)
  | conditional x =>
    have hnested : b.text ∈ (x.benefit :: x.nested).map (·.text) :=
      List.mem_map_of_mem (List.mem_cons_of_mem _ hb)
    exact List.mem_cons_of_mem _ (List.mem_cons_of_mem _ hnested)
  | unrecognized _ => cases hb

theorem trim_of_mem_options {prog : Program} {x : Choice} {b : Benefit}
    (h : Program.compile text = .ok prog) (hx : .choice x ∈ prog.clauses) (hb : b ∈ x.options) :
    trim b.text = b.text :=
  (shown_of_mem_offered h hx hb).trimmed

/-- Clauses that are compiled are well formed. A text without too long a numeral is a program, whose
clauses all show parts of it, serve for something and tell no number below zero; and so does the
clause that the whole text is, unless it is not recognized. -/
theorem clauses_well_formed (h : ShortRuns text.toList) :
    (∃ prog, Program.compile text = .ok prog ∧ ∀ c ∈ prog.clauses, c.WellFormed text) ∧
    ∃ c, Clause.compile text = .ok c ∧ (c.unrecognized? = none → c.WellFormed text) := by
  refine ⟨?_, ?_⟩
  · obtain ⟨prog, hprog⟩ := exists_program h
    exact ⟨prog, hprog, fun c hc => wellFormed_of_mem_clauses hprog hc⟩
  · obtain ⟨c, hc⟩ := exists_compiled_clause h
    refine ⟨c, hc, fun hrecognized => ?_⟩
    obtain ⟨hne, hclause⟩ := clause_of_compile hc hrecognized
    exact wellFormed_clause List.infix_rfl hne hclause

/-- Separators that stand alone: they bring no empty option, and what they leave of the last
sentence is one option only. -/
theorem clauses_well_formed_sample :
    ShortRuns "Pay 2 gold -> or 1 army or or shrug. Discard -> 3 VP and. or 4 draw or".toList ∧
      ∃ prog, Program.compile
          "Pay 2 gold -> or 1 army or or shrug. Discard -> 3 VP and. or 4 draw or" = .ok prog ∧
        (∀ c ∈ prog.clauses, c.WellFormed
          "Pay 2 gold -> or 1 army or or shrug. Discard -> 3 VP and. or 4 draw or") ∧
        prog.clauses =
          [.conditional ⟨"Pay 2 gold -> or 1 army or or shrug",
            ⟨.pay, "Pay 2 gold", 2, some (.counter .gold)⟩, ⟨"or 1 army or or shrug", []⟩,
            [⟨"1 army", [⟨.army, 1⟩]⟩, ⟨"shrug", []⟩]⟩,
          .conditional ⟨"Discard -> 3 VP and", ⟨.discard, "Discard", 1, none⟩,
            ⟨"3 VP and", [⟨.counter .victoryPoints, 3⟩]⟩, []⟩,
          .unrecognized "or 4 draw or"] := by
  have hshort :
      ShortRuns "Pay 2 gold -> or 1 army or or shrug. Discard -> 3 VP and. or 4 draw or".toList := by
    intro run hrun _
    exact hrun.length_le.trans (by decide)
  have hvalue : (Program.compile
      "Pay 2 gold -> or 1 army or or shrug. Discard -> 3 VP and. or 4 draw or").map
        (·.clauses) = .ok
          [.conditional ⟨"Pay 2 gold -> or 1 army or or shrug",
            ⟨.pay, "Pay 2 gold", 2, some (.counter .gold)⟩, ⟨"or 1 army or or shrug", []⟩,
            [⟨"1 army", [⟨.army, 1⟩]⟩, ⟨"shrug", []⟩]⟩,
          .conditional ⟨"Discard -> 3 VP and", ⟨.discard, "Discard", 1, none⟩,
            ⟨"3 VP and", [⟨.counter .victoryPoints, 3⟩]⟩, []⟩,
          .unrecognized "or 4 draw or"] := by
    decide +kernel
  obtain ⟨⟨prog, hprog, hformed⟩, -⟩ := clauses_well_formed hshort
  rw [hprog] at hvalue
  exact ⟨hshort, prog, hprog, hformed, Except.ok.inj hvalue⟩

end Clauses

end GuildCards.Effect
