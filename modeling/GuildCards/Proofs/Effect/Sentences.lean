import Mathlib
import GuildCards.Proofs.Effect.Amounts
import GuildCards.Proofs.Effect.Tokens

/-!
Sentences. A text is compiled sentence by sentence: its clauses are those of the parts between its
periods, each compiled as if it were the whole text, and each clause shows its part without the
blanks around it. Only a numeral that is too long keeps a text from being compiled.
-/
namespace GuildCards.Effect
open Text Number

section Ends
variable {s : List Char} {pos : Nat} {a b t : Token} {ts : List Token}

theorem blank_before (h : scanFrom pos s = a :: ts) :
    ∀ c ∈ s.take (a.start - pos), isBlank c = true := by
  induction pos, s using scan_steps with
  | nil pos => simp
  | blank pos d r hd ih =>
    rw [scanFrom_of_blank hd] at h
    have hle := (scanFrom_text (h ▸ List.mem_cons_self)).1
    have hsucc : a.start - pos = a.start - (pos + 1) + 1 := by omega
    rw [hsucc, List.take_succ_cons, List.forall_mem_cons]
    exact ⟨hd, ih h⟩
  | token pos d r kind hd hk ih =>
    rw [scanFrom_token hk] at h
    obtain ⟨rfl, -⟩ := List.cons.inj h
    simp

theorem blank_behind (h : scanFrom pos s = ts ++ [b]) :
    ∀ c ∈ s.drop (b.stop - pos), isBlank c = true := by
  induction pos, s using scan_steps generalizing ts with
  | nil pos => simp
  | blank pos d r hd ih =>
    rw [scanFrom_of_blank hd] at h
    have hlt := (scanFrom_take h).1
    have hsucc : b.stop - pos = b.stop - (pos + 1) + 1 := by omega
    rw [hsucc, List.drop_succ_cons]
    exact ih h
  | token pos d r kind hd hk ih =>
    rw [scanFrom_token hk] at h
    cases ts with
    | nil =>
      obtain ⟨rfl, hrest⟩ := List.cons.inj h
      rw [stop_lexeme, Nat.add_sub_cancel_left, List.drop_succ_cons]
      exact scanFrom_eq_nil_iff.mp hrest
    | cons t ts =>
      have hrest := (List.cons.inj h).2
      rw [drop_cons_sub d r (scanFrom_take hrest).1.le]
      exact ih hrest

theorem strip_append {x m y : List Char} (hx : ∀ c ∈ x, isBlank c = true)
    (hy : ∀ c ∈ y, isBlank c = true) : strip (x ++ (m ++ y)) = strip m := by
  have hy' : ∀ c ∈ y.reverse, isBlank c = true := fun c hc => hy c (List.mem_reverse.mp hc)
  rw [strip, stripBy, List.dropWhile_append_of_pos hx, List.dropWhile_append, strip, stripBy]
  cases hm : m.dropWhile isBlank with
  | nil => simp [List.dropWhile_eq_nil_iff.mpr hy]
  | cons c cs =>
    rw [List.isEmpty_cons, if_neg Bool.false_ne_true, List.reverse_append,
      List.dropWhile_append_of_pos hy']

theorem span_scan (s : List Char) : span s (scan s) = strip s := by
  by_cases hnil : scan s = []
  · have hblank := scanFrom_eq_nil_iff.mp hnil
    have hstrip := strip_append (m := []) hblank (by simp : ∀ c ∈ [], isBlank c = true)
    rw [List.append_nil, List.append_nil] at hstrip
    rw [hnil, hstrip]
    rfl
  obtain ⟨a, b, ha, hb⟩ := exists_ends hnil
  obtain ⟨us, hus⟩ := List.head?_eq_some_iff.mp ha
  obtain ⟨vs, hvs⟩ := List.getLast?_eq_some_iff.mp hb
  have hbefore := blank_before hus
  have hbehind := blank_behind hvs
  rw [Nat.sub_zero] at hbefore hbehind
  have hle : a.start ≤ b.stop := by
    have hnone : scan s = [] ++ a :: us := hus
    have hfrom := (scanFrom_drop hnone).2
    rw [← hus] at hfrom
    exact (scanFrom_take (hfrom.trans hvs)).1.le
  have hsplit : s = s.take a.start ++
      ((s.drop a.start).take (b.stop - a.start) ++ s.drop b.stop) := by
    have hrest : s.drop b.stop = (s.drop a.start).drop (b.stop - a.start) := by
      rw [List.drop_drop, Nat.add_sub_cancel' hle]
    rw [hrest, List.take_append_drop, List.take_append_drop]
  rw [span, ha, hb]
  conv_rhs => rw [hsplit, strip_append hbefore hbehind]

end Ends

section Periods
variable {s : List Char} {pos : Nat} {d : Char} {t : Token}

theorem period_mem (ht : t ∈ scanFrom pos s) (h : t.isPeriod = true) : '.' ∈ s := by
  obtain ⟨-, htext, -⟩ := scanFrom_text ht
  have hin := (htext.isInfix.trans (List.drop_suffix ..).isInfix).subset
  exact hin (text_of_isPeriod ht h ▸ List.mem_singleton_self '.')

theorem joins_period : Joins Token.isPeriod ['.'] where
  shift _ _ := rfl
  scan u v := ⟨_, rfl, by rw [List.append_assoc, List.length_append]; exact scan_append_period u v⟩

end Periods

section Digits
variable {s : List Char} {pos : Nat} {t : Token} {ts : List Token}

def ShortRuns (s : List Char) : Prop :=
  ∀ run, run <:+: s → (∀ c ∈ run, isDigit c = true) → run.length ≤ digitLimit

def Readable (ts : List Token) : Prop := ∀ t ∈ ts, t.isNumber = true → t.text.length ≤ digitLimit

theorem Readable.subset {us : List Token} (h : Readable ts) (hs : us ⊆ ts) : Readable us :=
  fun t ht => h t (hs ht)

theorem ShortRuns.readable (h : ShortRuns s) : Readable (scan s) := by
  intro t ht hnumber
  obtain ⟨-, htext, -⟩ := scanFrom_text ht
  exact h t.text (htext.isInfix.trans (List.drop_suffix ..).isInfix)
    (isDigit_of_isNumber ht hnumber)

end Digits

section Succeeds
variable {text : List Char} {s : String} {ts : List Token}

theorem exists_amount (h : Readable ts) : ∃ n, amount ts = .ok n := by
  unfold amount
  cases hfind : ts.find? Token.isNumber with
  | none => exact ⟨1, rfl⟩
  | some t =>
    have hlen := h t (List.mem_of_find?_eq_some hfind) (List.find?_some hfind)
    exact ⟨decimal t.text, by simp [natural, hlen]; rfl⟩

theorem exists_part (h : Readable ts) : ∃ ds, Effect.part text ts = .ok ds := by
  obtain ⟨n, hn⟩ := exists_amount h
  unfold Effect.part
  split
  · exact ⟨_, rfl⟩
  · exact ⟨_, rfl⟩
  · exact ⟨_, by rw [hn]; rfl⟩

theorem exists_benefit (h : Readable ts) : ∃ b, benefit text ts = .ok b := by
  obtain ⟨dss, hdss⟩ := exists_mapM (f := Effect.part text) fun g hg =>
    exists_part (h.subset (infix_of_mem_cutAt hg).1.subset)
  exact ⟨_, bind_eq_ok.mpr ⟨dss, hdss, rfl⟩⟩

theorem exists_alternatives (h : Readable ts) : ∃ bs, alternatives text ts = .ok bs :=
  exists_mapM fun _ hg =>
    exists_benefit (h.subset (infix_of_mem_cutAt (List.mem_filter.mp hg).1).1.subset)

theorem exists_cost (h : Readable ts) : ∃ c, cost? text ts = .ok c := by
  obtain ⟨n, hn⟩ := exists_amount h
  unfold cost?
  rw [hn, ok_bind]
  split_ifs <;> exact ⟨_, rfl⟩

theorem exists_conditional {source : String} {before after : List Token} (hb : Readable before)
    (ha : Readable after) : ∃ c, conditional text source before after = .ok c := by
  obtain ⟨cost, hcost⟩ : ∃ cost, cost? text before = .ok cost := exists_cost hb
  obtain ⟨bs, hbs⟩ : ∃ bs, alternatives text after = .ok bs := exists_alternatives ha
  obtain ⟨b, hb⟩ : ∃ b, benefit text after = .ok b := exists_benefit ha
  unfold conditional
  rw [hcost, hbs, hb]
  cases cost <;> simp only [bind, Except.bind, pure, Except.pure] <;> split_ifs <;> exact ⟨_, rfl⟩

theorem exists_clause (h : Readable ts) : ∃ c, clause text ts = .ok c := by
  obtain ⟨bs, hbs⟩ : ∃ bs, alternatives text ts = .ok bs := exists_alternatives h
  obtain ⟨b, hb⟩ : ∃ b, benefit text ts = .ok b := exists_benefit h
  unfold clause
  split_ifs
  · exact exists_conditional (h.subset (List.takeWhile_subset _))
      (h.subset ((List.drop_sublist ..).trans (List.dropWhile_sublist _)).subset)
  · unfold choice
    rw [hbs, ok_bind]
    split_ifs <;> exact ⟨_, rfl⟩
  · unfold gain
    rw [hb, ok_bind]
    split_ifs <;> exact ⟨_, rfl⟩

theorem exists_program (h : ShortRuns s.toList) : ∃ p, Program.compile s = .ok p := by
  obtain ⟨cs, hcs⟩ : ∃ cs, ((cutAt Token.isPeriod (scan s.toList)).filter (!·.isEmpty)).mapM
      (clause s.toList) = .ok cs :=
    exists_mapM fun g hg =>
      exists_clause (h.readable.subset (infix_of_mem_cutAt (List.mem_filter.mp hg).1).1.subset)
  exact ⟨⟨s, cs⟩, bind_eq_ok.mpr ⟨cs, hcs, rfl⟩⟩

theorem exists_compiled_clause (h : ShortRuns s.toList) : ∃ c, Clause.compile s = .ok c := by
  unfold Clause.compile
  simp only []
  split
  · exact ⟨_, rfl⟩
  · exact exists_clause (h.readable.subset List.filter_sublist.subset)

theorem exists_compiled_benefit (h : ShortRuns s.toList) : ∃ b, Benefit.compile s = .ok b := by
  unfold Benefit.compile
  simp only []
  split
  · exact ⟨_, rfl⟩
  · exact exists_benefit h.readable

end Succeeds

/-- The sentences of a text: what stands between its periods, but for what is blank. -/
def sentences (text : String) : List String :=
  ((text.toList.splitOn '.').filter fun s => s.any (!isBlank ·)).map String.ofList

section Sentences
variable {text s : String} {u : List Char} {g : List Token} {c : Clause}

theorem not_mem_of_mem_splitOn (hu : u ∈ text.toList.splitOn '.') : '.' ∉ u := by
  rw [List.splitOn, splitOnP_eq_cutAt] at hu
  intro hperiod
  simpa using (infix_of_mem_cutAt hu).2 '.' hperiod

theorem mem_sentences (hs : s ∈ sentences text) :
    '.' ∉ s.toList ∧ s.toList.any (!isBlank ·) = true := by
  obtain ⟨u, hu, rfl⟩ := List.mem_map.mp hs
  obtain ⟨hmem, hblank⟩ := List.mem_filter.mp hu
  rw [String.toList_ofList]
  exact ⟨not_mem_of_mem_splitOn hmem, hblank⟩

theorem compile_sentence (hs : s ∈ sentences text) :
    Clause.compile s = clause s.toList (scan s.toList) := by
  obtain ⟨hperiod, hblank⟩ := mem_sentences hs
  have hfilter : (scan s.toList).filter (!·.isPeriod) = scan s.toList := by
    refine List.filter_eq_self.mpr fun t ht => ?_
    cases ht' : t.isPeriod with
    | false => rfl
    | true => exact absurd (period_mem ht ht') hperiod
  have hne : scan s.toList ≠ [] := by
    intro hnil
    obtain ⟨c, hc, hcblank⟩ := List.any_eq_true.mp hblank
    simp [scanFrom_eq_nil_iff.mp hnil c hc] at hcblank
  unfold Clause.compile
  simp only [hfilter]

theorem source_of_compile (hs : s ∈ sentences text) (h : Clause.compile s = .ok c) :
    c.source = trim s := by
  rw [compile_sentence hs] at h
  rw [clause_source h, spanText, span_scan, trim]

theorem any_not_blank_iff {whole : List Char} (h : Stands whole u g) :
    u.any (!isBlank ·) = true ↔ (!g.isEmpty) = true := by
  obtain ⟨k, -, rfl⟩ := h
  rw [List.isEmpty_map, Bool.not_eq_true', List.isEmpty_eq_false_iff, Ne, scan, scanFrom_eq_nil_iff]
  simp

theorem stands_sentences (text : String) :
    List.Forall₂ (fun s g => s ∈ sentences text ∧ Stands text.toList s.toList g) (sentences text)
      ((cutAt Token.isPeriod (scan text.toList)).filter (!·.isEmpty)) := by
  have hsplit : ['.'].intercalate (text.toList.splitOn '.') = text.toList :=
    List.intercalate_splitOn '.'
  have hne : text.toList.splitOn '.' ≠ [] := by
    obtain ⟨g, gs, hcut⟩ := exists_mem_cutAt (· == '.') text.toList
    rw [List.splitOn, splitOnP_eq_cutAt, hcut]
    exact List.cons_ne_nil g gs
  have hprefix : ['.'].intercalate (text.toList.splitOn '.') <+: text.toList.drop 0 := by
    rw [hsplit]
    exact List.prefix_rfl
  have hparts : List.Forall₂ (Stands text.toList) (text.toList.splitOn '.')
      (cutAt Token.isPeriod (scan text.toList)) := by
    have hcut := joins_period.cutAt hne (fun u hu t ht => ?_) hprefix
    · rwa [hsplit, map_shift_zero] at hcut
    · cases ht' : t.isPeriod with
      | false => rfl
      | true => exact absurd (period_mem ht ht') (not_mem_of_mem_splitOn hu)
  refine (List.forall₂_and_left _ _).mpr ⟨fun s hs => hs, ?_⟩
  rw [sentences, List.forall₂_map_left_iff]
  simp only [String.toList_ofList]
  exact List.rel_filter (R := Stands text.toList) (fun _ _ => any_not_blank_iff) hparts

theorem mapM_sentences (text : String) :
    (sentences text).mapM Clause.compile =
      ((cutAt Token.isPeriod (scan text.toList)).filter (!·.isEmpty)).mapM (clause text.toList) := by
  refine mapM_eq_of_forall₂ ((stands_sentences text).imp fun s g h => ?_)
  rw [compile_sentence h.1, local_clause.eq h.2]

end Sentences

/-- Compilation goes sentence by sentence, and a clause is compiled again exactly from its own text.
Of a text without too long a numeral, the clauses are those that its sentences are compiled to, each
alone and in order; each clause shows its sentence, without the blanks around it; and what it shows
is compiled to the same clause. -/
theorem compiled_by_sentence {text : String} (h : ShortRuns text.toList) :
    ∃ prog, Program.compile text = .ok prog ∧
      (sentences text).mapM Clause.compile = .ok prog.clauses ∧
      prog.clauses.map Clause.source = (sentences text).map trim ∧
      ∀ c ∈ prog.clauses, Clause.compile c.source = .ok c := by
  obtain ⟨cs, hcs⟩ : ∃ cs, ((cutAt Token.isPeriod (scan text.toList)).filter (!·.isEmpty)).mapM
      (clause text.toList) = .ok cs :=
    exists_mapM fun g hg =>
      exists_clause (h.readable.subset (infix_of_mem_cutAt (List.mem_filter.mp hg).1).1.subset)
  have hprog : Program.compile text = .ok ⟨text, cs⟩ := bind_eq_ok.mpr ⟨cs, hcs, rfl⟩
  have hsentences : (sentences text).mapM Clause.compile = .ok cs :=
    (mapM_sentences text).trans hcs
  refine ⟨_, hprog, hsentences, ?_, fun c hc => compile_source hprog hc⟩
  have hsources : List.Forall₂ (fun s c => Clause.source c = trim s) (sentences text) cs := by
    have hboth := (List.forall₂_and_left _ _).mpr ⟨fun s hs => hs, mapM_eq_ok.mp hsentences⟩
    exact hboth.imp fun s c hs => source_of_compile hs.1 hs.2
  rw [← List.forall₂_eq_eq_eq, List.forall₂_map_left_iff, List.forall₂_map_right_iff]
  exact hsources.flip

/-- Of five parts between periods two are blank; the others are a cost, a choice and nothing known. -/
theorem compiled_by_sentence_sample :
    ShortRuns " Pay 2 gold → 1 army.. gain 1 VP or 12 gold . hello. ".toList ∧
      sentences " Pay 2 gold → 1 army.. gain 1 VP or 12 gold . hello. " =
        [" Pay 2 gold → 1 army", " gain 1 VP or 12 gold ", " hello"] ∧
      ∃ prog, Program.compile " Pay 2 gold → 1 army.. gain 1 VP or 12 gold . hello. " = .ok prog ∧
        prog.clauses.map Clause.source =
          ["Pay 2 gold → 1 army", "gain 1 VP or 12 gold", "hello"] := by
  have hshort : ShortRuns " Pay 2 gold → 1 army.. gain 1 VP or 12 gold . hello. ".toList := by
    intro run hrun _
    exact hrun.length_le.trans (by decide)
  have hsentences : sentences " Pay 2 gold → 1 army.. gain 1 VP or 12 gold . hello. " =
      [" Pay 2 gold → 1 army", " gain 1 VP or 12 gold ", " hello"] := by
    decide +kernel
  obtain ⟨prog, hprog, -, hsource, -⟩ := compiled_by_sentence hshort
  refine ⟨hshort, hsentences, prog, hprog, ?_⟩
  rw [hsource, hsentences]
  decide +kernel

end GuildCards.Effect
