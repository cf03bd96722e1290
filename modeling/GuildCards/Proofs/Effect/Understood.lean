import Mathlib
import GuildCards.Proofs.Effect.Sentences
import GuildCards.Proofs.Effect.Words

/-!
The compiler understands the whole language. Every level of phrases is joined by separators of its
own, which no phrase of a lower level holds; so to cut a phrase at its separators gives back the
phrases it was joined from, level by level down to the items.
-/
namespace GuildCards.Effect
open Text Number

section Joined
variable {α β : Type} {m n : Nat} {isSep : Token → Bool} {sep whole s u v : List Char}
  {us : List (List Char)} {gs : List (List Token)} {f : List Char → List Token → Except Overlong β}

/-- A text that joins others by a token of a level. -/
structure JoinsAt (n : Nat) (isSep : Token → Bool) (sep : List Char) : Prop extends
    Joins isSep sep where
  level : ∀ t, isSep t = true → t.level = n

theorem JoinsAt.not_isSep (h : JoinsAt n isSep sep) (hs : UpTo m s) (hmn : m < n) :
    ∀ t ∈ Effect.scan s, isSep t = false := by
  intro t ht
  cases hsep : isSep t with
  | false => rfl
  | true => exact absurd (hs t ht) (not_le.mpr (h.level t hsep ▸ hmn))

theorem JoinsAt.upTo_append (h : JoinsAt n isSep sep) (hu : UpTo n u) (hv : UpTo n v) :
    UpTo n (u ++ sep ++ v) := by
  obtain ⟨t, ht, hscan⟩ := h.scan u v
  rw [UpTo, Every, hscan, List.forall_mem_append, List.forall_mem_cons, List.forall_mem_map]
  exact ⟨hu, (h.level t ht).le, hv⟩

theorem JoinsAt.upTo (h : JoinsAt n isSep sep) (hus : ∀ u ∈ us, UpTo n u) :
    UpTo n (sep.intercalate us) := by
  induction us with
  | nil => simp [UpTo, Every]
  | cons u us ih =>
    rw [List.forall_mem_cons] at hus
    cases us with
    | nil =>
      rw [List.intercalate_singleton]
      exact hus.1
    | cons v vs =>
      rw [List.intercalate_cons_cons]
      exact h.upTo_append hus.1 (ih hus.2)

theorem JoinsAt.any (h : JoinsAt n isSep sep) (hus : 2 ≤ us.length) :
    (Effect.scan (sep.intercalate us)).any isSep = true := by
  match us with
  | u :: v :: us =>
    obtain ⟨t, ht, hscan⟩ := h.scan u (sep.intercalate (v :: us))
    rw [List.intercalate_cons_cons, hscan, List.any_append, List.any_cons, ht, Bool.true_or,
      Bool.or_true]

theorem mapM_stands (hf : Local f) (h : List.Forall₂ (Stands whole) us gs) :
    gs.mapM (f whole) = us.mapM fun u => f u (Effect.scan u) :=
  mapM_eq_of_forall₂ (h.flip.imp fun _ _ hstands => hf.eq hstands)

theorem filter_stands (hus : ∀ u ∈ us, Tight u) (h : List.Forall₂ (Stands whole) us gs) :
    gs.filter (!·.isEmpty) = gs := by
  induction h with
  | nil => rfl
  | cons hug _ ih =>
    rw [List.forall_mem_cons] at hus
    obtain ⟨k, -, rfl⟩ := hug
    rw [List.filter_cons_of_pos (by simpa using hus.1.scan_ne_nil), ih hus.2]

theorem tight_intercalate {xs : List α} {text : α → List Char} (hne : xs ≠ [])
    (hxs : ∀ x ∈ xs, Tight (text x)) : Tight (sep.intercalate (xs.map text)) := by
  refine Tight.intercalate (by simpa using hne) ?_
  rwa [List.forall_mem_map]

/-- A phrase of a level, and what a function of the compiler makes of all its tokens. -/
structure Reads (n : Nat) (f : List Char → List Token → Except Overlong β) (s : List Char)
    (b : β) : Prop where
  tight : Tight s
  upTo : UpTo n s
  eq : f s (Effect.scan s) = .ok b

section Phrases
variable {xs : List α} {text : α → List Char} {meaning : α → β} (h : JoinsAt n isSep sep)
  (hmn : m < n) (hne : xs ≠ []) (hxs : ∀ x ∈ xs, Reads m f (text x) (meaning x))
include h hmn hne hxs

theorem JoinsAt.stands (hp : sep.intercalate (xs.map text) <+: whole) :
    List.Forall₂ (Stands whole) (xs.map text)
      (Effect.cutAt isSep (Effect.scan (sep.intercalate (xs.map text)))) := by
  have hus : ∀ u ∈ xs.map text, ∀ t ∈ Effect.scan u, isSep t = false := by
    rw [List.forall_mem_map]
    exact fun x hx => h.not_isSep (hxs x hx).upTo hmn
  have hcut := h.cutAt (k := 0) (by simpa using hne) hus hp
  rwa [map_shift_zero] at hcut

theorem JoinsAt.reads (hf : Local f) (hp : sep.intercalate (xs.map text) <+: whole) :
    (Effect.cutAt isSep (Effect.scan (sep.intercalate (xs.map text)))).mapM (f whole) =
      .ok (xs.map meaning) := by
  rw [mapM_stands hf (h.stands hmn hne hxs hp), List.mapM_map, mapM_eq_ok,
    List.forall₂_map_right_iff, List.forall₂_same]
  exact fun x hx => (hxs x hx).eq

theorem JoinsAt.filter (hp : sep.intercalate (xs.map text) <+: whole) :
    (Effect.cutAt isSep (Effect.scan (sep.intercalate (xs.map text)))).filter (!·.isEmpty) =
      Effect.cutAt isSep (Effect.scan (sep.intercalate (xs.map text))) := by
  refine filter_stands ?_ (h.stands hmn hne hxs hp)
  rw [List.forall_mem_map]
  exact fun x hx => (hxs x hx).tight

end Phrases
end Joined

section Separators

theorem joinsAt_word {w : List Char} {t : Token} {n : Nat} {isSep : Token → Bool}
    (hscan : scan w = [t]) (ht : isSep t = true) (hshift : ∀ k t, isSep (Token.shift k t) = isSep t)
    (hlevel : ∀ t, isSep t = true → t.level = n) : JoinsAt n isSep (' ' :: w ++ [' ']) where
  shift := hshift
  level := hlevel
  scan u v := by
    have hlength : w.length + 1 + (u.length + 1) = (u ++ (' ' :: w ++ [' '])).length := by
      simp only [List.length_append, List.length_cons, List.length_nil]
      omega
    refine ⟨t.shift (u.length + 1), (hshift _ t).trans ht, ?_⟩
    calc scan (u ++ (' ' :: w ++ [' ']) ++ v)
      _ = scan (u ++ ' ' :: (w ++ ' ' :: v)) := by simp
      _ = scan u ++ ([t] ++ (scan v).map (Token.shift (w.length + 1))).map
          (Token.shift (u.length + 1)) := by rw [scan_append_blank, scan_append_blank, hscan]
      _ = scan u ++ t.shift (u.length + 1) ::
          (scan v).map (Token.shift (w.length + 1 + (u.length + 1))) := by
        rw [List.map_append, List.map_map, Token.shift_shift]
        rfl
      _ = _ := by rw [hlength]

theorem joinsAt_and : JoinsAt 1 (Token.isWord "and") " and ".toList := by
  have hscan : scan "and".toList = [⟨.word, "and".toList, 0⟩] := scan_letters (by decide)
  exact joinsAt_word hscan rfl (fun _ _ => rfl) fun _ => level_of_and

theorem joinsAt_or : JoinsAt 2 (Token.isWord "or") " or ".toList := by
  have hscan : scan "or".toList = [⟨.word, "or".toList, 0⟩] := scan_letters (by decide)
  exact joinsAt_word hscan rfl (fun _ _ => rfl) fun _ => level_of_or

theorem joinsAt_arrow (a : Phrase.Arrow) : JoinsAt 3 Token.isArrow (' ' :: a.text ++ [' ']) := by
  have hscan : scan a.text = [⟨.arrow, a.text, 0⟩] := by
    cases a <;> exact scan_lexeme rfl
  exact joinsAt_word hscan rfl (fun _ _ => rfl) fun _ => level_of_isArrow

theorem joinsAt_period : JoinsAt 4 Token.isPeriod ". ".toList where
  shift _ _ := rfl
  level _ := level_of_isPeriod
  scan u v := by
    have hlength : 1 + (u.length + 1) = (u ++ ". ".toList).length := by
      rw [List.length_append, Nat.add_comm 1, Nat.add_assoc]
      rfl
    have hblank : scan (' ' :: v) = (scan v).map (Token.shift 1) :=
      (scanFrom_of_blank (by decide)).trans (scanFrom_add 0 1 v)
    refine ⟨⟨.period, ['.'], u.length⟩, rfl, ?_⟩
    calc scan (u ++ ". ".toList ++ v)
      _ = scan (u ++ '.' :: ' ' :: v) := by simp
      _ = scan u ++ ⟨.period, ['.'], u.length⟩ ::
          (scan v).map (Token.shift (1 + (u.length + 1))) := by
        rw [scan_append_period, hblank, List.map_map, Token.shift_shift]
      _ = _ := by rw [hlength]

end Separators

section Clauses
variable {text : List Char} {source : String} {ts before after : List Token} {cost : Cost}
  {b : Benefit} {bs : List Benefit}

theorem part_eq {r : Resource} (hne : ts ≠ []) (hk : keyword? (span text ts) = some r) :
    Effect.part text ts = (amount ts).map fun n => [⟨r, n⟩] := by
  obtain ⟨t, ts, rfl⟩ := List.exists_cons_of_ne_nil hne
  simp only [Effect.part, hk]

theorem gain_eq (hb : benefit text ts = .ok b) (hne : b.deltas ≠ []) :
    gain text source ts = .ok (.gain source b.deltas) := by
  rw [gain, hb, ok_bind, if_neg (by simpa using hne)]
  rfl

theorem choice_eq (hbs : alternatives text ts = .ok bs) (hlen : 2 ≤ bs.length)
    (hany : grantsAny bs = true) : choice text source ts = .ok (.choice ⟨source, bs⟩) := by
  rw [choice, hbs, ok_bind, if_pos ⟨hlen, hany⟩]
  rfl

theorem conditional_eq (hbefore : before ≠ []) (hafter : after ≠ [])
    (hcost : cost? text before = .ok (some cost))
    (hoffer : hasAlternatives after = true ∧ alternatives text after = .ok bs ∧
        grantsAny bs = true ∧ b = ⟨spanText text after, []⟩ ∨
      hasAlternatives after = false ∧ benefit text after = .ok b ∧ b.deltas ≠ [] ∧ bs = []) :
    conditional text source before after = .ok (.conditional ⟨source, cost, b, bs⟩) := by
  unfold conditional
  rw [if_neg (by simp [hbefore, hafter]), hcost, ok_bind]
  rcases hoffer with ⟨hor, hbs, hany, rfl⟩ | ⟨hor, hb, hne, rfl⟩
  · simp only [hor, if_true, hbs, ok_bind, hany]
    rfl
  · have hsome : (!b.deltas.isEmpty) = true := by simpa using hne
    simp only [hor, Bool.false_eq_true, if_false, hb, ok_bind, hsome, if_true]
    rfl

theorem clause_gain (harrow : ts.any Token.isArrow = false) (hor : hasAlternatives ts = false) :
    clause text ts = gain text (spanText text ts) ts := by
  unfold clause
  simp only [harrow, hor, Bool.false_eq_true, if_false]

theorem clause_choice (harrow : ts.any Token.isArrow = false) (hor : hasAlternatives ts = true) :
    clause text ts = choice text (spanText text ts) ts := by
  unfold clause
  simp only [harrow, hor, Bool.false_eq_true, if_false, if_true]

end Clauses

section Arrow
variable {sep u v : List Char}

theorem clause_arrow (h : JoinsAt 3 Token.isArrow sep) (hu : UpTo 2 u) :
    ∃ after, Stands (u ++ sep ++ v) v after ∧ clause (u ++ sep ++ v) (scan (u ++ sep ++ v)) =
      conditional (u ++ sep ++ v) (spanText (u ++ sep ++ v) (scan (u ++ sep ++ v))) (scan u) after := by
  obtain ⟨t, ht, hscan⟩ := h.scan u v
  -- the first arrow is the one that joins
  have hnone : ∀ b ∈ scan u, (!b.isArrow) = true := by
    intro b hb
    rw [h.not_isSep hu (by decide) b hb]
    rfl
  have hany : (scan (u ++ sep ++ v)).any Token.isArrow = true := by
    rw [hscan, List.any_append, List.any_cons, ht, Bool.true_or, Bool.or_true]
  have hbefore : (scan (u ++ sep ++ v)).takeWhile (!·.isArrow) = scan u := by
    rw [hscan, List.takeWhile_append_of_pos hnone, List.takeWhile_cons_of_neg (by simp [ht]),
      List.append_nil]
  have hafter : ((scan (u ++ sep ++ v)).dropWhile (!·.isArrow)).drop 1 =
      (scan v).map (Token.shift (u ++ sep).length) := by
    rw [hscan, List.dropWhile_append_of_pos hnone, List.dropWhile_cons_of_neg (by simp [ht])]
    rfl
  refine ⟨_, ⟨(u ++ sep).length, ?_, rfl⟩, ?_⟩
  · rw [List.drop_left]
  · unfold clause
    simp only [hany, if_true, hbefore, hafter]

end Arrow

end GuildCards.Effect

namespace GuildCards.Effect.Phrase
open Text Number

theorem spanText_of_tight {u : List Char} (h : Tight u) :
    spanText u (Effect.scan u) = String.ofList u := by
  rw [spanText, span_scan, h.strip]

section Phrases
variable (n : Numeral) (i : Item) (g : Grant) (o : Options)

theorem Numeral.amount {ts : List Token} {k : Nat}
    (h : ts.find? Token.isNumber = some ⟨.number, n.digits, k⟩) : amount ts = .ok (n.value : Int) := by
  unfold Effect.amount
  rw [h]
  simp only [n.natural]
  rfl

theorem Item.reads : Reads 0 part i.text [i.delta] where
  tight := i.tight
  upTo := i.upTo
  eq := by
    obtain ⟨ts, hscan⟩ := i.scan
    have hkeyword : Effect.keyword? (span i.text (Effect.scan i.text)) = some i.noun.resource := by
      rw [span_scan, i.tight.strip]
      exact i.keyword? (u := []) (by simp) (fun _ _ _ => rfl)
    have hamount : amount (Effect.scan i.text) = .ok (i.count.value : Int) :=
      i.count.amount (k := 0) (hscan ▸ List.find?_cons_of_pos rfl)
    rw [part_eq i.tight.scan_ne_nil hkeyword, hamount]
    rfl

theorem Grant.tight : Tight g.text := tight_intercalate g.nonempty fun i _ => i.tight

theorem Grant.upTo : UpTo 1 g.text := by
  refine joinsAt_and.upTo ?_
  rw [List.forall_mem_map]
  exact fun i _ => i.upTo.mono (by decide)

theorem Grant.deltas_ne_nil : g.deltas ≠ [] := by simpa [Grant.deltas] using g.nonempty

theorem Grant.reads : Reads 1 Effect.benefit g.text g.benefit where
  tight := g.tight
  upTo := g.upTo
  eq := by
    have hparts : (cutAt (Token.isWord "and") (Effect.scan g.text)).mapM (part g.text) =
        .ok (g.items.map fun i => [i.delta]) :=
      joinsAt_and.reads (by decide) g.nonempty (fun i _ => i.reads) local_part List.prefix_rfl
    have hflat : (g.items.map fun i => [i.delta]).flatten = g.deltas := by
      rw [← List.flatMap_def, Grant.deltas, List.map_eq_flatMap]
    rw [Effect.benefit, hparts, ok_bind, hflat, spanText_of_tight g.tight]
    rfl

theorem Options.nonempty : o.grants ≠ [] := by
  have := o.several
  rintro hnil
  simp [hnil] at this

theorem Options.tight : Tight o.text := tight_intercalate o.nonempty fun g _ => g.tight

theorem Options.upTo : UpTo 2 o.text := by
  refine joinsAt_or.upTo ?_
  rw [List.forall_mem_map]
  exact fun g _ => g.upTo.mono (by decide)

theorem Options.hasAlternatives : hasAlternatives (Effect.scan o.text) = true :=
  joinsAt_or.any (by simpa using o.several)

theorem Options.grantsAny : grantsAny o.benefits = true := by
  obtain ⟨g, gs, hgrants⟩ := List.exists_cons_of_ne_nil o.nonempty
  have hsome : (!g.deltas.isEmpty) = true := by simpa using g.deltas_ne_nil
  rw [Effect.grantsAny, Options.benefits, hgrants, List.map_cons, List.any_cons, Grant.benefit,
    hsome, Bool.true_or]

theorem Options.reads : Reads 2 alternatives o.text o.benefits where
  tight := o.tight
  upTo := o.upTo
  eq := by
    have hgrants : ∀ g ∈ o.grants, Reads 1 Effect.benefit g.text g.benefit := fun g _ => g.reads
    have hfilter : (cutAt (Token.isWord "or") (Effect.scan o.text)).filter (!·.isEmpty) =
        cutAt (Token.isWord "or") (Effect.scan o.text) :=
      joinsAt_or.filter (by decide) o.nonempty hgrants List.prefix_rfl
    rw [alternatives, hfilter]
    exact joinsAt_or.reads (by decide) o.nonempty hgrants local_benefit List.prefix_rfl

end Phrases

section Prices
variable (p : Price) (n : Numeral)

theorem Verb.scan (v : Verb) : Effect.scan v.text = [⟨.word, v.text, 0⟩] := by
  cases v <;> exact scan_letters (by decide)

theorem Verb.mute (v : Verb) : Mute ((v.text ++ [' ']).map Char.toLower) := by
  have hapart : ∀ u ∈ ["pay ".toList, "spend ".toList], ∀ k ∈ keywords, ∀ w ∈ u.tails, w ≠ [] →
      ¬w <+: k.1.toList ∧ ¬k.1.toList <+: w := by decide
  intro k hk
  cases v with
  | pay => exact occursIn_append (hapart "pay ".toList (by simp) k hk)
  | spend => exact occursIn_append (hapart "spend ".toList (by simp) k hk)

theorem Price.text_pay (v : Verb) (i : Item) (h : i.noun.resource ∈ payables) :
    (pay v i h).text = v.text ++ ' ' :: i.text := rfl

theorem Price.text_discard :
    (discard n).text = "Discard".toList ++ ' ' :: (n.digits ++ ' ' :: "cards".toList) := rfl

theorem Price.tight : Tight p.text := by
  cases p with
  | pay v i h =>
    have hverb : Tight v.text := by cases v <;> exact ⟨by decide, by decide⟩
    exact hverb.append [' '] i.tight
  | discard n =>
    have hdiscard : Tight "Discard".toList := ⟨by decide, by decide⟩
    have hcards : Tight "cards".toList := ⟨by decide, by decide⟩
    exact hdiscard.append [' '] (n.tight.append [' '] hcards)

theorem Price.upTo : UpTo 0 p.text := by
  cases p with
  | pay v i h =>
    have hverb : UpTo 0 v.text := by cases v <;> exact upTo_letters (by decide) (by decide)
    exact hverb.append_blank i.upTo
  | discard n =>
    have hdiscard : UpTo 0 "Discard".toList := upTo_letters (by decide) (by decide)
    have hcards : UpTo 0 "cards".toList := upTo_letters (by decide) (by decide)
    exact UpTo.append_blank hdiscard (n.upTo.append_blank hcards)

theorem isPayable_of_mem {r : Resource} (h : r ∈ payables) : isPayable r = true := by
  simpa [payables, isPayable, or_assoc] using h

theorem Verb.ascii (v : Verb) : ∀ c ∈ v.text ++ [' '], c.toNat < 128 := by
  have hall : (v.text ++ [' ']).all (·.toNat < 128) = true := by cases v <;> decide
  exact fun c hc => by simpa using List.all_eq_true.mp hall c hc

theorem Price.cost_pay (v : Verb) (i : Item) (h : i.noun.resource ∈ payables) :
    cost? (pay v i h).text (Effect.scan (pay v i h).text) = .ok (some (pay v i h).cost) := by
  obtain ⟨ts, hitem⟩ := i.scan
  have hscan : Effect.scan (pay v i h).text = ⟨.word, v.text, 0⟩ ::
      (Effect.scan i.text).map (Token.shift (v.text.length + 1)) := by
    rw [Price.text_pay, scan_append_blank, v.scan, List.singleton_append]
  have hamount : amount (Effect.scan (pay v i h).text) = .ok (i.count.value : Int) := by
    refine i.count.amount (k := 0 + (v.text.length + 1)) ?_
    rw [hscan, hitem]
    rfl
  -- the word is a keyword too, but not of what can be paid
  have hdiscard : (Effect.scan (pay v i h).text).any (Token.isWord "discard") = false := by
    have hitem : (Effect.scan i.text).any (Token.isWord "discard") = false :=
      List.any_eq_false.mpr fun t ht => by simp [i.not_discard h t ht]
    rw [hscan, List.any_cons, List.any_map, isWord_shift, hitem]
    cases v <;> decide
  have hpay : (Effect.scan (pay v i h).text).any (fun t => t.isWord "pay" || t.isWord "spend") =
      true := by
    rw [hscan, List.any_cons]
    cases v <;> rfl
  have hkeyword : Effect.keyword? (span (pay v i h).text (Effect.scan (pay v i h).text)) =
      some i.noun.resource := by
    have hsplit : (pay v i h).text = v.text ++ [' '] ++ i.text := by
      rw [Price.text_pay, List.append_assoc]
      rfl
    rw [span_scan, (pay v i h).tight.strip, hsplit]
    exact i.keyword? v.ascii v.mute
  rw [cost?, hamount, ok_bind, hdiscard, if_neg Bool.false_ne_true, hpay, if_pos rfl, hkeyword,
    Option.filter_some_pos (isPayable_of_mem h), spanText_of_tight (pay v i h).tight]
  rfl

theorem Price.cost_discard :
    cost? (discard n).text (Effect.scan (discard n).text) = .ok (some (discard n).cost) := by
  have hverb : Effect.scan "Discard".toList = [⟨.word, "Discard".toList, 0⟩] :=
    scan_letters (by decide)
  obtain ⟨k, ts, hscan⟩ : ∃ k ts, Effect.scan (discard n).text =
      ⟨.word, "Discard".toList, 0⟩ :: ⟨.number, n.digits, k⟩ :: ts := by
    rw [Price.text_discard, scan_append_blank, scan_append_blank, hverb, n.scan, List.singleton_append,
      List.singleton_append, List.map_cons]
    exact ⟨_, _, rfl⟩
  have hamount : amount (Effect.scan (discard n).text) = .ok (n.value : Int) := by
    refine n.amount (k := k) ?_
    rw [hscan]
    rfl
  have hdiscard : (Effect.scan (discard n).text).any (Token.isWord "discard") = true := by
    rw [hscan, List.any_cons]
    rfl
  rw [cost?, hamount, ok_bind, hdiscard, if_pos rfl, spanText_of_tight (discard n).tight]
  rfl

theorem Price.reads : Reads 0 cost? p.text (some p.cost) where
  tight := p.tight
  upTo := p.upTo
  eq := by
    cases p with
    | pay v i h => exact cost_pay v i h
    | discard n => exact cost_discard n

end Prices

section Sentences
variable (p : Price) (a : Arrow) (f : Offer) (s : Sentence)

theorem Offer.tight : Tight f.text := by
  cases f with
  | grant g => exact g.tight
  | options o => exact o.tight

theorem Offer.upTo : UpTo 2 f.text := by
  cases f with
  | grant g => exact g.upTo.mono (by decide)
  | options o => exact o.upTo

theorem hasAlternatives_of_upTo {u : List Char} (h : UpTo 1 u) :
    hasAlternatives (Effect.scan u) = false := by
  rw [Effect.hasAlternatives, List.any_eq_false]
  intro t ht
  rw [joinsAt_or.not_isSep h (by decide) t ht]
  exact Bool.false_ne_true

theorem any_isArrow_of_upTo {u : List Char} (h : UpTo 2 u) :
    (Effect.scan u).any Token.isArrow = false := by
  rw [List.any_eq_false]
  intro t ht
  rw [(joinsAt_arrow .sign).not_isSep h (by decide) t ht]
  exact Bool.false_ne_true

theorem Sentence.tight : Tight s.text := by
  cases s with
  | gain g => exact g.tight
  | choice o => exact o.tight
  | conditional p a f =>
    rw [Sentence.text, List.append_assoc]
    exact p.tight.append _ f.tight

theorem Sentence.upTo : UpTo 3 s.text := by
  cases s with
  | gain g => exact g.upTo.mono (by decide)
  | choice o => exact o.upTo.mono (by decide)
  | conditional p a f =>
    exact (joinsAt_arrow a).upTo_append (p.upTo.mono (by decide)) (f.upTo.mono (by decide))

theorem Offer.conditional {whole : List Char} {source : String} {ts after : List Token}
    {cost : Cost} (hts : ts ≠ []) (hcost : cost? whole ts = .ok (some cost))
    (hafter : Stands whole f.text after) :
    Effect.conditional whole source ts after =
      .ok (.conditional ⟨source, cost, f.benefit, f.nested⟩) := by
  have hne : after ≠ [] := by
    obtain ⟨k, -, rfl⟩ := hafter
    simpa using f.tight.scan_ne_nil
  refine conditional_eq hts hne hcost ?_
  cases f with
  | grant g =>
    refine .inr ⟨(local_hasAlternatives.eq hafter).trans (hasAlternatives_of_upTo g.upTo), ?_,
      g.deltas_ne_nil, rfl⟩
    exact (local_benefit.eq hafter).trans g.reads.eq
  | options o =>
    refine .inl ⟨(local_hasAlternatives.eq hafter).trans o.hasAlternatives, ?_, o.grantsAny, ?_⟩
    · exact (local_alternatives.eq hafter).trans o.reads.eq
    · rw [local_spanText.eq hafter]
      exact congrArg (Benefit.mk · []) (spanText_of_tight o.tight).symm

theorem Sentence.reads : Reads 3 Effect.clause s.text s.clause where
  tight := s.tight
  upTo := s.upTo
  eq := by
    have hsource := spanText_of_tight s.tight
    cases s with
    | gain g =>
      have harrow := any_isArrow_of_upTo (g.upTo.mono (by decide))
      refine (clause_gain harrow (hasAlternatives_of_upTo g.upTo)).trans ?_
      rw [← Sentence.text, hsource]
      exact gain_eq g.reads.eq g.deltas_ne_nil
    | choice o =>
      refine (clause_choice (any_isArrow_of_upTo o.upTo) o.hasAlternatives).trans ?_
      rw [← Sentence.text, hsource]
      exact choice_eq o.reads.eq (by simpa [Options.benefits] using o.several) o.grantsAny
    | conditional p a f =>
      obtain ⟨after, hafter, hclause⟩ :=
        clause_arrow (v := f.text) (joinsAt_arrow a) (p.upTo.mono (by decide))
      have hbefore : Stands (Sentence.conditional p a f).text p.text (Effect.scan p.text) := by
        apply stands_of_prefix
        rw [Sentence.text, List.append_assoc]
        exact List.prefix_append ..
      have hcost := (local_cost.eq hbefore).trans p.reads.eq
      refine hclause.trans ?_
      rw [← Sentence.text, hsource]
      exact f.conditional p.tight.scan_ne_nil hcost hafter

end Sentences

section Written
variable (ss : List Sentence) (period : Bool)

theorem filter_cutAt_period (u : List Char) :
    (cutAt Token.isPeriod (Effect.scan (u ++ if period then ['.'] else []))).filter (!·.isEmpty) =
      (cutAt Token.isPeriod (Effect.scan u)).filter (!·.isEmpty) := by
  cases period with
  | false => rw [if_neg Bool.false_ne_true, List.append_nil]
  | true =>
    have hlast : Token.isPeriod ⟨.period, ['.'], u.length⟩ = true := rfl
    rw [if_pos rfl, scan_append_period, scan_nil, List.map_nil, cutAt_concat hlast,
      List.filter_append]
    exact List.append_nil _

theorem clauses_written : ((cutAt Token.isPeriod (Effect.scan (written ss period).toList)).filter
    (!·.isEmpty)).mapM (Effect.clause (written ss period).toList) =
      .ok (ss.map Sentence.clause) := by
  rw [written, String.toList_ofList, filter_cutAt_period]
  by_cases hne : ss = []
  · rw [hne, List.map_nil, List.intercalate_nil, scan_nil]
    rfl
  · have hss : ∀ s ∈ ss, Reads 3 Effect.clause s.text s.clause := fun s _ => s.reads
    rw [joinsAt_period.filter (by decide) hne hss List.prefix_rfl]
    exact joinsAt_period.reads (by decide) hne hss local_clause (List.prefix_append ..)

end Written

/-- The compiler understands the whole language: what is written in it is compiled to one clause for
each sentence, in order, which is what the sentence means; and no clause means nothing. -/
theorem language_understood (ss : List Sentence) (period : Bool) :
    ∃ prog, Program.compile (written ss period) = .ok prog ∧
      prog.clauses = ss.map Sentence.clause ∧ prog.unrecognized = [] := by
  refine ⟨⟨written ss period, ss.map Sentence.clause⟩,
    bind_eq_ok.mpr ⟨_, clauses_written ss period, rfl⟩, rfl, ?_⟩
  rw [Program.unrecognized, List.filterMap_map, List.filterMap_eq_nil_iff]
  intro s _
  cases s <;> rfl

example :
    let two : Numeral := ⟨['2'], by decide, List.forall_mem_singleton.mpr (by decide), by decide⟩
    let gold : Noun := ⟨"GOLD".toList, "gold", .counter .gold, by decide, by decide⟩
    let vp : Noun := ⟨"VP".toList, "vp", .counter .victoryPoints, by decide, by decide⟩
    let price : Price := .pay .spend ⟨two, gold⟩ (by decide)
    written [.conditional price .sign (.grant ⟨[⟨two, vp⟩], by decide⟩)] true =
      "Spend 2 GOLD → 2 VP." := by
  decide

end GuildCards.Effect.Phrase
