import Mathlib
import GuildCards.Proofs.Effect.Slices
import GuildCards.Proofs.Success

/-!
A clause is compiled again from its own text. The compiler looks at tokens and at the text between
them, so what it makes of the tokens of a piece of a text is what it makes of the piece.
-/
namespace GuildCards.Effect
open Text Number

theorem exists_mem_cutAt {α : Type} (sep : α → Bool) (as : List α) :
    ∃ g gs, cutAt sep as = g :: gs := by
  induction as with
  | nil => exact ⟨[], [], rfl⟩
  | cons a as ih =>
    obtain ⟨g, gs, h⟩ := ih
    rw [cutAt, h]
    cases sep a
    · exact ⟨a :: g, gs, rfl⟩
    · exact ⟨[], g :: gs, rfl⟩

theorem cutAt_map {α β : Type} (f : α → β) (sep : β → Bool) (as : List α) :
    cutAt sep (as.map f) = (cutAt (sep ∘ f) as).map (List.map f) := by
  induction as with
  | nil => rfl
  | cons a as ih =>
    obtain ⟨g, gs, h⟩ := exists_mem_cutAt (sep ∘ f) as
    rw [List.map_cons, cutAt, cutAt, ih, h]
    cases hsep : sep (f a) <;> simp [hsep]

theorem prefix_of_cutAt {α : Type} {sep : α → Bool} {as g : List α} {gs : List (List α)}
    (h : cutAt sep as = g :: gs) : g <+: as := by
  induction as generalizing g gs with
  | nil =>
    obtain ⟨rfl, -⟩ := List.cons.inj h
    exact List.nil_prefix
  | cons a as ih =>
    obtain ⟨g', gs', h'⟩ := exists_mem_cutAt sep as
    rw [cutAt, h'] at h
    cases hsep : sep a with
    | true =>
      obtain ⟨rfl, -⟩ : [] = g ∧ g' :: gs' = gs := by simpa [hsep] using h
      exact List.nil_prefix
    | false =>
      obtain ⟨rfl, -⟩ : a :: g' = g ∧ gs' = gs := by simpa [hsep] using h
      exact (List.prefix_cons_inj a).mpr (ih h')

theorem infix_of_mem_cutAt {α : Type} {sep : α → Bool} {as g : List α} (h : g ∈ cutAt sep as) :
    g <:+: as ∧ ∀ a ∈ g, sep a = false := by
  induction as generalizing g with
  | nil =>
    obtain rfl := List.mem_singleton.mp h
    exact ⟨List.nil_infix, by simp⟩
  | cons a as ih =>
    obtain ⟨g', gs', h'⟩ := exists_mem_cutAt sep as
    have hcut := h
    rw [cutAt, h'] at h
    have hrest {x : List α} (hx : x ∈ cutAt sep as) : x <:+: a :: as ∧ ∀ b ∈ x, sep b = false :=
      ⟨(ih hx).1.trans (List.infix_cons List.infix_rfl), (ih hx).2⟩
    cases hsep : sep a with
    | true =>
      simp only [hsep, if_true] at h
      rcases List.mem_cons.mp h with rfl | h
      · exact ⟨List.nil_infix, by simp⟩
      · exact hrest (h' ▸ h)
    | false =>
      simp only [hsep, Bool.false_eq_true, if_false] at h
      rcases List.mem_cons.mp h with rfl | h
      · refine ⟨((List.prefix_cons_inj a).mpr (prefix_of_cutAt h')).isInfix, ?_⟩
        rw [List.forall_mem_cons]
        exact ⟨hsep, (ih (h' ▸ List.mem_cons_self)).2⟩
      · exact hrest (h' ▸ List.mem_cons_of_mem g' h)

section Shift
variable {whole part : List Char} {k : Nat} {ts : List Token}

@[simp] theorem isWord_shift (w : String) : Token.isWord w ∘ Token.shift k = Token.isWord w := rfl

@[simp] theorem isNumber_shift : Token.isNumber ∘ Token.shift k = Token.isNumber := rfl

@[simp] theorem isArrow_shift : Token.isArrow ∘ Token.shift k = Token.isArrow := rfl

@[simp] theorem isPeriod_shift : Token.isPeriod ∘ Token.shift k = Token.isPeriod := rfl

def Within (text : List Char) (ts : List Token) : Prop := ∀ t ∈ ts, t.stop ≤ text.length

theorem Within.subset {us : List Token} (h : Within part ts) (hs : us ⊆ ts) : Within part us :=
  fun t ht => h t (hs ht)

theorem span_shift (hp : part <+: whole.drop k) (h : Within part ts) :
    span whole (ts.map (Token.shift k)) = span part ts := by
  obtain ⟨rest, hrest⟩ := hp
  unfold span
  rw [List.head?_map, List.getLast?_map]
  cases ha : ts.head? with
  | none => rfl
  | some a =>
    cases hb : ts.getLast? with
    | none => rfl
    | some b =>
      have hstop := h b (List.mem_of_getLast? hb)
      -- the last token ends inside the piece, so nothing of the rest is taken
      have hdrop : whole.drop (a.start + k) =
          part.drop a.start ++ rest.drop (a.start - part.length) := by
        rw [Nat.add_comm, ← List.drop_drop, ← hrest, List.drop_append]
      have hzero : b.stop - a.start - (part.drop a.start).length = 0 := by
        rw [List.length_drop]
        omega
      simp only [Option.map_some, Token.shift_start, Token.shift_stop, Nat.add_sub_add_right, hdrop,
        List.take_append, hzero, List.take_zero, List.append_nil]

theorem spanText_shift (hp : part <+: whole.drop k) (h : Within part ts) :
    spanText whole (ts.map (Token.shift k)) = spanText part ts := by
  rw [spanText, span_shift hp h, spanText]

theorem amount_shift : amount (ts.map (Token.shift k)) = amount ts := by
  rw [amount, amount, List.find?_map, isNumber_shift]
  cases ts.find? Token.isNumber <;> rfl

theorem part_shift (hp : part <+: whole.drop k) (h : Within part ts) :
    Effect.part whole (ts.map (Token.shift k)) = Effect.part part ts := by
  unfold Effect.part
  rw [span_shift hp h]
  cases ts with
  | nil => rfl
  | cons t ts =>
    cases keyword? (span part (t :: ts)) with
    | none => rfl
    | some r =>
      change (amount ((t :: ts).map (Token.shift k))).map _ = _
      rw [amount_shift]

theorem benefit_shift (hp : part <+: whole.drop k) (h : Within part ts) :
    benefit whole (ts.map (Token.shift k)) = benefit part ts := by
  have hparts : (cutAt (Token.isWord "and") (ts.map (Token.shift k))).mapM (Effect.part whole) =
      (cutAt (Token.isWord "and") ts).mapM (Effect.part part) := by
    rw [cutAt_map, isWord_shift, List.mapM_map]
    exact mapM_congr fun g hg => part_shift hp (h.subset (infix_of_mem_cutAt hg).1.subset)
  rw [benefit, hparts, spanText_shift hp h, benefit]

theorem alternatives_shift (hp : part <+: whole.drop k) (h : Within part ts) :
    alternatives whole (ts.map (Token.shift k)) = alternatives part ts := by
  rw [alternatives, cutAt_map, isWord_shift, List.filter_map, List.mapM_map]
  have hempty : ((fun g : List Token => !g.isEmpty) ∘ List.map (Token.shift k)) =
      fun g => !g.isEmpty := by
    funext g
    cases g <;> rfl
  rw [hempty]
  apply mapM_congr
  intro g hg
  exact benefit_shift hp (h.subset (infix_of_mem_cutAt (List.mem_filter.mp hg).1).1.subset)

theorem hasAlternatives_shift : hasAlternatives (ts.map (Token.shift k)) = hasAlternatives ts := by
  rw [hasAlternatives, List.any_map, isWord_shift, hasAlternatives]

theorem cost?_shift (hp : part <+: whole.drop k) (h : Within part ts) :
    cost? whole (ts.map (Token.shift k)) = cost? part ts := by
  unfold cost?
  rw [amount_shift, spanText_shift hp h, span_shift hp h]
  simp only [List.any_map]
  rfl

variable {source : String}

theorem conditional_shift {before after : List Token} (hp : part <+: whole.drop k)
    (hb : Within part before) (ha : Within part after) :
    conditional whole source (before.map (Token.shift k)) (after.map (Token.shift k)) =
      conditional part source before after := by
  unfold conditional
  rw [List.isEmpty_map, List.isEmpty_map, cost?_shift hp hb, hasAlternatives_shift,
    alternatives_shift hp ha, benefit_shift hp ha, spanText_shift hp ha]

theorem choice_shift (hp : part <+: whole.drop k) (h : Within part ts) :
    choice whole source (ts.map (Token.shift k)) = choice part source ts := by
  unfold choice
  rw [alternatives_shift hp h]

theorem gain_shift (hp : part <+: whole.drop k) (h : Within part ts) :
    gain whole source (ts.map (Token.shift k)) = gain part source ts := by
  unfold gain
  rw [benefit_shift hp h]

theorem clause_shift (hp : part <+: whole.drop k) (h : Within part ts) :
    clause whole (ts.map (Token.shift k)) = clause part ts := by
  have harrow : (fun t : Token => !t.isArrow) ∘ Token.shift k = fun t => !t.isArrow := rfl
  unfold clause
  rw [spanText_shift hp h, List.any_map, isArrow_shift, List.takeWhile_map, List.dropWhile_map,
    ← List.map_drop, harrow, hasAlternatives_shift]
  simp only [choice_shift hp h, gain_shift hp h, conditional_shift hp
    (h.subset (List.takeWhile_subset _))
    (h.subset ((List.drop_sublist ..).trans (List.dropWhile_sublist _)).subset)]

end Shift

section Source
variable {text : List Char} {source : String} {ts before after : List Token} {c : Clause}

inductive Priced (text : List Char) (ts : List Token) : Cost → Prop where
  | discard {n : Int} (h : amount ts = .ok n) : Priced text ts ⟨.discard, spanText text ts, n, none⟩
  | pay {n : Int} {r : Resource} (h : amount ts = .ok n) (hpay : isPayable r = true) :
    Priced text ts ⟨.pay, spanText text ts, n, some r⟩

theorem priced {cost : Cost} (h : cost? text ts = .ok (some cost)) : Priced text ts cost := by
  obtain ⟨n, hn, h⟩ := bind_eq_ok.mp h
  split_ifs at h
  · obtain rfl := Option.some.inj (pure_eq_ok.mp h)
    exact .discard hn
  · obtain ⟨r, hr, rfl⟩ := Option.map_eq_some_iff.mp (pure_eq_ok.mp h).symm
    exact .pay hn (Option.filter_eq_some_iff.mp hr).2
  · cases pure_eq_ok.mp h

inductive Arrowed (text : List Char) (source : String) (before after : List Token) : Clause → Prop where
  | unrecognized : Arrowed text source before after (.unrecognized source)
  | nested {cost : Cost} {bs : List Benefit} (hbefore : before ≠ [])
    (hcost : cost? text before = .ok (some cost)) (hor : hasAlternatives after = true)
    (h : alternatives text after = .ok bs) (hgrants : grantsAny bs = true) :
    Arrowed text source before after (.conditional ⟨source, cost, ⟨spanText text after, []⟩, bs⟩)
  | single {cost : Cost} {b : Benefit} (hbefore : before ≠ []) (hafter : after ≠ [])
    (hcost : cost? text before = .ok (some cost)) (h : benefit text after = .ok b)
    (hgrants : b.deltas ≠ []) :
    Arrowed text source before after (.conditional ⟨source, cost, b, []⟩)

theorem arrowed (h : conditional text source before after = .ok c) :
    Arrowed text source before after c := by
  unfold conditional at h
  split at h
  · obtain rfl := pure_eq_ok.mp h
    exact .unrecognized
  rename_i hempty
  obtain ⟨hbefore, hafter⟩ : before ≠ [] ∧ after ≠ [] := by simpa using hempty
  obtain ⟨cost, hcost, h⟩ := bind_eq_ok.mp h
  cases cost with
  | none =>
    obtain rfl := pure_eq_ok.mp h
    exact .unrecognized
  | some cost =>
    cases hor : hasAlternatives after with
    | true =>
      simp only [hor, if_true] at h
      obtain ⟨bs, hbs, h⟩ := bind_eq_ok.mp h
      split_ifs at h with hgrants <;> obtain rfl := pure_eq_ok.mp h
      · exact .nested hbefore hcost hor hbs hgrants
      · exact .unrecognized
    | false =>
      simp only [hor, Bool.false_eq_true, if_false] at h
      obtain ⟨b, hb, h⟩ := bind_eq_ok.mp h
      split_ifs at h with hgrants <;> obtain rfl := pure_eq_ok.mp h
      · exact .single hbefore hafter hcost hb (by simpa using hgrants)
      · exact .unrecognized

theorem Arrowed.nested_eq {x : Conditional} (h : Arrowed text source before after (.conditional x)) :
    x.nested = [] ∨ alternatives text after = .ok x.nested := by
  cases h with
  | nested _ _ _ h _ => exact .inr h
  | single _ _ _ _ _ => exact .inl rfl

inductive CompiledFrom (text : List Char) (ts : List Token) : Clause → Prop where
  | unrecognized : CompiledFrom text ts (.unrecognized (spanText text ts))
  | gain {b : Benefit} (h : benefit text ts = .ok b) (hgrants : b.deltas ≠ []) :
    CompiledFrom text ts (.gain (spanText text ts) b.deltas)
  | choice {options : List Benefit} (h : alternatives text ts = .ok options)
    (htwo : 2 ≤ options.length) (hgrants : grantsAny options = true) :
    CompiledFrom text ts (.choice ⟨spanText text ts, options⟩)
  | conditional {x : Conditional} {before after : List Token} (hbefore : before <:+: ts)
    (hafter : after <:+: ts) (h : Arrowed text (spanText text ts) before after (.conditional x)) :
    CompiledFrom text ts (.conditional x)

theorem compiledFrom (h : clause text ts = .ok c) : CompiledFrom text ts c := by
  unfold clause at h
  simp only [] at h
  split_ifs at h
  · have hbefore : ts.takeWhile (!·.isArrow) <:+: ts := (List.takeWhile_prefix _).isInfix
    have hafter : (ts.dropWhile (!·.isArrow)).drop 1 <:+: ts :=
      ((List.drop_suffix ..).trans (List.dropWhile_suffix _)).isInfix
    cases arrowed h with
    | unrecognized => exact .unrecognized
    | nested hne hcost hor hbs hgrants =>
      exact .conditional hbefore hafter (.nested hne hcost hor hbs hgrants)
    | single hne hne' hcost hb hgrants =>
      exact .conditional hbefore hafter (.single hne hne' hcost hb hgrants)
  · obtain ⟨options, hoptions, h⟩ := bind_eq_ok.mp h
    split_ifs at h with hgrants <;> obtain rfl := pure_eq_ok.mp h
    · exact .choice hoptions hgrants.1 hgrants.2
    · exact .unrecognized
  · obtain ⟨b, hb, h⟩ := bind_eq_ok.mp h
    split_ifs at h with hgrants <;> obtain rfl := pure_eq_ok.mp h
    · exact .unrecognized
    · exact .gain hb (by simpa using hgrants)

theorem clause_source (h : clause text ts = .ok c) : c.source = spanText text ts := by
  cases compiledFrom h with
  | conditional _ _ harrowed => cases harrowed <;> rfl
  | _ => rfl

end Source

theorem exists_of_mem_clauses {text : String} {prog : Program} {c : Clause}
    (h : Program.compile text = .ok prog) (hc : c ∈ prog.clauses) :
    ∃ ts, ts ≠ [] ∧ ts <:+: scan text.toList ∧ (∀ t ∈ ts, t.isPeriod = false) ∧
      clause text.toList ts = .ok c := by
  unfold Program.compile at h
  obtain ⟨cs, hcs, h⟩ := bind_eq_ok.mp h
  obtain rfl := pure_eq_ok.mp h
  obtain ⟨ts, hts, hclause⟩ := exists_of_mem_mapM hcs hc
  obtain ⟨hcut, hne⟩ := List.mem_filter.mp hts
  obtain ⟨hin, hperiod⟩ := infix_of_mem_cutAt hcut
  exact ⟨ts, by simpa using hne, hin, hperiod, hclause⟩

theorem within_scan (text : List Char) : Within text (scan text) := by
  intro t ht
  obtain ⟨-, htext, hne, -⟩ := scanFrom_text ht
  have hle := htext.length_le
  have hpos := List.length_pos_iff.mpr hne
  rw [List.length_drop, Nat.sub_zero] at hle
  rw [Token.stop]
  omega

theorem compile_source {text : String} {prog : Program} {c : Clause}
    (h : Program.compile text = .ok prog) (hc : c ∈ prog.clauses) :
    Clause.compile c.source = .ok c := by
  obtain ⟨ts, hne, ⟨pre, post, hscan⟩, hperiod, hclause⟩ := exists_of_mem_clauses h hc
  obtain ⟨a, b, ha, hb⟩ := exists_ends hne
  have hspan := span_eq_piece hscan.symm ha hb
  have hpiece := scan_piece hscan.symm ha hb
  have hsource : c.source.toList = piece text.toList a b := by
    rw [clause_source hclause, spanText, hspan, String.toList_ofList]
  -- a sentence was cut out between periods, so the filter before compiling takes nothing away
  have hfilter :
      (scan (piece text.toList a b)).filter (!·.isPeriod) = scan (piece text.toList a b) := by
    rw [List.filter_eq_self]
    intro t ht
    have hshift : (t.shift a.start).isPeriod = false :=
      hperiod _ (hpiece ▸ List.mem_map_of_mem ht)
    rw [← isPeriod_shift, Function.comp_apply, hshift]
    rfl
  have hnil : scan (piece text.toList a b) ≠ [] := by
    intro hnil
    rw [hnil] at hpiece
    exact hne hpiece.symm
  have hcompile : clause (piece text.toList a b) (scan (piece text.toList a b)) = .ok c := by
    have hprefix : piece text.toList a b <+: text.toList.drop a.start := List.take_prefix ..
    rw [← clause_shift hprefix (within_scan _), hpiece, hclause]
  unfold Clause.compile
  simp only [hsource, hfilter]
  exact hcompile

end GuildCards.Effect
