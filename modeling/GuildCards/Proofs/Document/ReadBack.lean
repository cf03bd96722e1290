import Mathlib
import GuildCards.Document.Reader
import GuildCards.Proofs.Document.Scanning
import GuildCards.Proofs.Success

/-!
A document is read as it was written. From the lexemes that it is made of the reader puts it together
again, field by field and item by item. Only printable characters and new lines are written.
-/
namespace GuildCards.Document
open Number Text

/-- From one reading some lexemes, wherever they stand, lead to another. -/
def Leads (r : Reading) (ls : List Lexeme) (r' : Reading) : Prop :=
  ∀ xs : List Placed, xs.map (·.lexeme) = ls → xs.foldlM Reading.step r = .ok r'

namespace Leads
variable {r r' r'' : Reading} {x : Lexeme} {ls ms : List Lexeme}

theorem nil : Leads r [] r := by
  intro xs hxs
  obtain rfl := List.map_eq_nil_iff.mp hxs
  rfl

theorem cons (h : ∀ place, r.step ⟨place, x⟩ = .ok r') (hls : Leads r' ls r'') :
    Leads r (x :: ls) r'' := by
  intro xs hxs
  obtain ⟨⟨place, y⟩, ys, rfl, rfl, hys⟩ := List.map_eq_cons_iff.mp hxs
  rw [List.foldlM_cons, h place]
  exact hls ys hys

theorem append (h : Leads r ls r') (h' : Leads r' ms r'') : Leads r (ls ++ ms) r'' := by
  intro xs hxs
  obtain ⟨ys, zs, rfl, hys, hzs⟩ := List.map_eq_append_iff.mp hxs
  rw [List.foldlM_append, h ys hys]
  exact h' zs hzs

end Leads

theorem intercalate_cons {α : Type} (sep xs : List α) (xss : List (List α)) :
    sep.intercalate (xs :: xss) = xs ++ xss.flatMap (sep ++ ·) := by
  induction xss generalizing xs with
  | nil => simp
  | cons ys yss ih =>
    rw [List.intercalate_cons_cons, ih, List.flatMap_cons, List.append_assoc, List.append_assoc]

theorem put_of_not_mem {name : String} {v : Value} {fs : Fields} (h : name ∉ fs.names) :
    Keyed.put name v fs = fs ++ [(name, v)] := by
  induction fs with
  | nil => rfl
  | cons f fs ih =>
    obtain ⟨k, w⟩ := f
    rw [Keyed.names, List.map_cons, List.mem_cons, not_or] at h
    rw [Keyed.put, if_neg (Ne.symm h.1), ih h.2]
    rfl

namespace Value
variable {r : Reading}

theorem exists_lexemes (fs : List Frame) (v : Value) : ∃ x ls, v.lexemes = x :: ls ∧
    ∀ place, Reading.step ⟨fs, .itemOrClose⟩ ⟨place, x⟩ = Reading.step ⟨fs, .value⟩ ⟨place, x⟩ := by
  cases v <;> exact ⟨_, _, rfl, fun _ => rfl⟩

theorem leads_item {fs : List Frame} {v : Value} (h : Leads ⟨fs, .value⟩ v.lexemes r) :
    Leads ⟨fs, .itemOrClose⟩ v.lexemes r := by
  obtain ⟨x, ls, hlexemes, hstep⟩ := exists_lexemes fs v
  intro xs hxs
  have hread := h xs hxs
  rw [hlexemes] at hxs
  obtain ⟨⟨place, y⟩, ys, rfl, rfl, -⟩ := List.map_eq_cons_iff.mp hxs
  rwa [List.foldlM_cons, hstep, ← List.foldlM_cons]

theorem leads_field {fs : List Frame} {ps : Fields} {k : String} {v : Value} {next : Expecting}
    (hnext : next = .name ps ∨ next = .nameOrClose ps) (hk : k ∉ ps.names)
    (hv : Leads ⟨.object ps k :: fs, .value⟩ v.lexemes (.finish v (.object ps k :: fs))) :
    Leads ⟨fs, next⟩ (.text k :: .colon :: v.lexemes)
      ⟨.object (ps ++ [(k, v)]) k :: fs, .commaOrClose⟩ := by
  rw [Reading.finish, put_of_not_mem hk] at hv
  rcases hnext with rfl | rfl <;> exact .cons (fun _ => rfl) (.cons (fun _ => rfl) hv)

mutual

theorem leads_value {fs : List Frame} {room : Nat} (hroom : fs.length + room ≤ depthLimit) (v : Value)
    (h : v.isFaithful room = true) : Leads ⟨fs, .value⟩ v.lexemes (.finish v fs) := by
  cases v with
  | null => exact .cons (fun _ => rfl) .nil
  | bool b => exact .cons (fun _ => rfl) .nil
  | int n => exact .cons (fun _ => rfl) .nil
  | real x => exact .cons (fun _ => rfl) .nil
  | text s => exact .cons (fun _ => rfl) .nil
  | list vs =>
    rw [isFaithful, Bool.and_eq_true, decide_eq_true_eq] at h
    -- the container takes one place of the room, and its items have the rest
    have hlt : fs.length < depthLimit := by omega
    have hinner : fs.length + 1 + (room - 1) ≤ depthLimit := by omega
    refine .cons (fun _ => if_pos hlt) ?_
    cases vs with
    | nil => exact .cons (fun _ => rfl) .nil
    | cons v vs =>
      rw [areFaithful, Bool.and_eq_true] at h
      rw [itemLexemes, intercalate_cons]
      have hfirst : Leads ⟨.list [] :: fs, .itemOrClose⟩ v.lexemes (.finish v (.list [] :: fs)) :=
        leads_item (leads_value hinner v h.2.1)
      refine .append (hfirst.append (leads_items hinner vs h.2.2)) (.cons (fun _ => ?_) .nil)
      simp only [Reading.step, List.reverse_append, List.reverse_reverse, List.reverse_singleton]
      rfl
  | object gs =>
    rw [isFaithful, Bool.and_eq_true, Bool.and_eq_true, decide_eq_true_eq, decide_eq_true_eq] at h
    have hlt : fs.length < depthLimit := by omega
    have hinner : fs.length + 1 + (room - 1) ≤ depthLimit := by omega
    refine .cons (fun _ => if_pos hlt) ?_
    cases gs with
    | nil => exact .cons (fun _ => rfl) .nil
    | cons g gs =>
      obtain ⟨k, v⟩ := g
      rw [haveFaithful, Bool.and_eq_true, Bool.and_eq_true] at h
      rw [fieldLexemes, intercalate_cons]
      have hfirst : Leads ⟨fs, .nameOrClose []⟩ (.text k :: .colon :: v.lexemes)
          ⟨.object [(k, v)] k :: fs, .commaOrClose⟩ :=
        leads_field (.inr rfl) (by simp [Keyed.names]) (leads_value hinner v h.2.1.2)
      obtain ⟨n, hlater⟩ := leads_fields hinner k [(k, v)] gs h.1.2 h.2.2
      exact .append (hfirst.append hlater) (.cons (fun _ => rfl) .nil)

theorem leads_items {fs : List Frame} {room : Nat} (hroom : fs.length + 1 + room ≤ depthLimit)
    {ws : List Value} (vs : List Value) (h : areFaithful room vs = true) :
    Leads ⟨.list ws :: fs, .commaOrClose⟩ ((itemLexemes vs).flatMap ([.comma] ++ ·))
      ⟨.list (vs.reverse ++ ws) :: fs, .commaOrClose⟩ := by
  cases vs with
  | nil => exact .nil
  | cons v vs =>
    rw [areFaithful, Bool.and_eq_true] at h
    rw [itemLexemes, List.flatMap_cons]
    have hfirst : Leads ⟨.list ws :: fs, .commaOrClose⟩ ([.comma] ++ v.lexemes)
        (.finish v (.list ws :: fs)) := .cons (fun _ => rfl) (leads_value hroom v h.1)
    refine hfirst.append ?_
    rw [List.reverse_cons, List.append_assoc]
    exact leads_items hroom vs h.2

theorem leads_fields {fs : List Frame} {room : Nat} (hroom : fs.length + 1 + room ≤ depthLimit)
    (k : String) (ps : Fields) (gs : List (String × Value)) (hnames : ((ps ++ gs).map (·.1)).Nodup)
    (h : haveFaithful room gs = true) :
    ∃ n, Leads ⟨.object ps k :: fs, .commaOrClose⟩ ((fieldLexemes gs).flatMap ([.comma] ++ ·))
      ⟨.object (ps ++ gs) n :: fs, .commaOrClose⟩ := by
  cases gs with
  | nil => exact ⟨k, by rw [List.append_nil]; exact .nil⟩
  | cons g gs =>
    obtain ⟨m, v⟩ := g
    rw [haveFaithful, Bool.and_eq_true, Bool.and_eq_true] at h
    rw [fieldLexemes, List.flatMap_cons]
    have hm : m ∉ ps.names := by
      rw [List.map_append, List.nodup_append] at hnames
      exact fun hm => hnames.2.2 m hm m List.mem_cons_self rfl
    have hfield : Leads ⟨fs, .name ps⟩ (.text m :: .colon :: v.lexemes)
        ⟨.object (ps ++ [(m, v)]) m :: fs, .commaOrClose⟩ :=
      leads_field (.inl rfl) hm (leads_value hroom v h.1.2)
    rw [← List.singleton_append, ← List.append_assoc] at hnames
    obtain ⟨n, hlater⟩ := leads_fields hroom m (ps ++ [(m, v)]) gs hnames h.2
    rw [List.append_assoc, List.singleton_append] at hlater
    exact ⟨n, .append (.cons (fun _ => rfl) hfield) hlater⟩

end

end Value

def IsWritten (c : Char) : Prop := IsPrintable c ∨ c = '\n'

def Written (s : String) : Prop := ∀ c ∈ s.toList, IsWritten c

namespace Written
variable {s t : String} {l : Layout}

theorem append (hs : Written s) (ht : Written t) : Written (s ++ t) := by
  intro c hc
  rw [String.toList_append, List.mem_append] at hc
  exact hc.elim (hs c) (ht c)

theorem of_printable (h : ∀ c ∈ s.toList, IsPrintable c) : Written s := fun c hc => .inl (h c hc)

theorem text (hl : l.spacing ≠ .tight) (k : String) : Written (l.text k) := by
  refine of_printable fun c hc => ?_
  rw [Layout.text, if_neg hl, String.toList_ofList, List.cons_append, List.mem_cons,
    List.mem_append, List.mem_singleton, List.mem_flatMap] at hc
  rcases hc with rfl | ⟨d, -, hc⟩ | rfl
  · decide
  · exact (escape d).printable c hc
  · decide

theorem newline (l : Layout) : Written l.newline := by
  intro c hc
  rcases l.mem_newline hc with rfl | rfl
  · exact .inr rfl
  · exact .inl (by decide)

theorem separator (l : Layout) : Written l.separator := by
  unfold Layout.separator
  split
  · exact of_printable (by simp [IsPrintable])
  · exact of_printable (by simp [IsPrintable])
  · exact append (of_printable (by simp [IsPrintable])) (newline l)

theorem colon (l : Layout) : Written l.colon := by
  unfold Layout.colon
  split_ifs <;> exact of_printable (by simp [IsPrintable])

theorem intercalate (hs : Written s) {ss : List String} (h : ∀ t ∈ ss, Written t) :
    Written (s.intercalate ss) := by
  intro c hc
  rw [String.toList_intercalate] at hc
  cases ss with
  | nil => simp at hc
  | cons t ss =>
    rw [List.forall_mem_cons] at h
    rw [List.map_cons, intercalate_cons, List.mem_append, List.mem_flatMap] at hc
    rcases hc with hc | ⟨u, hu, hc⟩
    · exact h.1 c hc
    · obtain ⟨t, ht, rfl⟩ := List.mem_map.mp hu
      exact (List.mem_append.mp hc).elim (hs c) (h.2 t ht c)

theorem enclose {o c : String} (ho : Written o) (hc : Written c) {ss : List String}
    (h : ∀ s ∈ ss, Written s) : Written (Document.enclose l o c ss) := by
  have hitems : Written (l.deeper.separator.intercalate ss) := (separator _).intercalate h
  unfold Document.enclose
  split_ifs
  · exact ho.append hc
  · exact (((ho.append (newline _)).append hitems).append (newline _)).append hc

end Written

namespace Value
variable {l : Layout}

mutual

theorem written_print {l : Layout} (hl : l.spacing ≠ .tight) (v : Value) : Written (v.print l) := by
  cases v with
  | null => exact .of_printable (by simp [print, IsPrintable])
  | bool b => cases b <;> exact .of_printable (by simp [print, IsPrintable])
  | int n => exact .of_printable (printable_toString n)
  | real x => exact .of_printable (printable_printReal x)
  | text s => exact .text hl s
  | list vs =>
    exact .enclose (.of_printable (by simp [IsPrintable])) (.of_printable (by simp [IsPrintable]))
      (written_printItems (l := l.deeper) hl vs)
  | object fs =>
    exact .enclose (.of_printable (by simp [IsPrintable])) (.of_printable (by simp [IsPrintable]))
      (written_printFields (l := l.deeper) hl fs)

theorem written_printItems {l : Layout} (hl : l.spacing ≠ .tight) (vs : List Value) :
    ∀ s ∈ printItems l vs, Written s := by
  cases vs with
  | nil => simp [printItems]
  | cons v vs =>
    rw [printItems, List.forall_mem_cons]
    exact ⟨written_print hl v, written_printItems hl vs⟩

theorem written_printFields {l : Layout} (hl : l.spacing ≠ .tight) (fs : List (String × Value)) :
    ∀ s ∈ printFields l fs, Written s := by
  cases fs with
  | nil => simp [printFields]
  | cons f fs =>
    obtain ⟨k, v⟩ := f
    rw [printFields, List.forall_mem_cons]
    exact ⟨((Written.text hl k).append (.colon l)).append (written_print hl v),
      written_printFields hl fs⟩

end

theorem read_print {v : Value} (hl : l.spacing ≠ .tight) (h : v.isFaithful depthLimit = true) :
    read (v.print l).toList = .ok v := by
  obtain ⟨xs, hxs, hscan⟩ := scans_print hl v h 0 [] .nothing
  have hmark : (v.print l).toList.head? ≠ some '\uFEFF' := by
    intro hhead
    rcases written_print hl v _ (List.mem_of_head? hhead) with hc | hc
    · exact absurd hc (by decide)
    · exact absurd hc (by decide)
  rw [List.append_nil, Document.lexemes, List.append_nil] at hscan
  have hread : xs.foldlM Reading.step ⟨[], .value⟩ = .ok (.finish v []) :=
    leads_value (by simp) v h xs hxs
  unfold read
  rw [if_neg hmark, hscan]
  simp only [hread, ok_bind]
  rfl

mutual

theorem isWritable_of_isFaithful {room : Nat} (v : Value) (h : v.isFaithful room = true) :
    v.isWritable = true := by
  cases v with
  | null | bool | real | text => rfl
  | int n => exact h
  | list vs =>
    rw [isFaithful, Bool.and_eq_true] at h
    exact areWritable_of_areFaithful vs h.2
  | object fs =>
    rw [isFaithful, Bool.and_eq_true] at h
    exact haveWritable_of_haveFaithful fs h.2

theorem areWritable_of_areFaithful {room : Nat} (vs : List Value)
    (h : areFaithful room vs = true) : areWritable vs = true := by
  cases vs with
  | nil => rfl
  | cons v vs =>
    rw [areFaithful, Bool.and_eq_true] at h
    rw [areWritable, isWritable_of_isFaithful v h.1, areWritable_of_areFaithful vs h.2]
    rfl

theorem haveWritable_of_haveFaithful {room : Nat} (fs : List (String × Value))
    (h : haveFaithful room fs = true) : haveWritable fs = true := by
  cases fs with
  | nil => rfl
  | cons f fs =>
    obtain ⟨k, v⟩ := f
    rw [haveFaithful, Bool.and_eq_true, Bool.and_eq_true] at h
    rw [haveWritable, isWritable_of_isFaithful v h.1.2, haveWritable_of_haveFaithful fs h.2]
    rfl

end

end Value

end GuildCards.Document
