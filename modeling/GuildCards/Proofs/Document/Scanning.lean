import Mathlib
import GuildCards.Proofs.Document.Numerals

/-!
The text of a document is scanned as the lexemes that the document is made of. A mark or a quoted text
is scanned alike before anything; a number or a name before what may follow a value.
-/
namespace GuildCards.Document
open Number Text

namespace Value

mutual

def lexemes : Value → List Lexeme
  | .null => [.scalar .null]
  | .bool b => [.scalar (.bool b)]
  | .int n => [.scalar (.int n)]
  | .real x => [.scalar (.real x)]
  | .text s => [.text s]
  | .list vs => .openList :: [.comma].intercalate (itemLexemes vs) ++ [.closeList]
  | .object fs => .openObject :: [.comma].intercalate (fieldLexemes fs) ++ [.closeObject]

def itemLexemes : List Value → List (List Lexeme)
  | [] => []
  | v :: vs => v.lexemes :: itemLexemes vs

def fieldLexemes : List (String × Value) → List (List Lexeme)
  | [] => []
  | (k, v) :: fs => (.text k :: .colon :: v.lexemes) :: fieldLexemes fs

end

def readsBack (x : Real64) : Bool :=
  match scalar? (printReal x).toList with
  | some (.scalar (.real y), n) => y = x && n = (printReal x).toList.length
  | _ => false

mutual

/-- Can a value be told from its text, with room for so many containers one inside the other? -/
def isFaithful (room : Nat) : Value → Bool
  | .null | .bool _ => true
  | .int n => (Value.int n).isWritable
  | .real x => readsBack x
  | .text s => !hasPair s.toList
  | .list vs => 0 < room && areFaithful (room - 1) vs
  | .object fs => 0 < room && (fs.map (·.1)).Nodup && haveFaithful (room - 1) fs

def areFaithful (room : Nat) : List Value → Bool
  | [] => true
  | v :: vs => v.isFaithful room && areFaithful room vs

def haveFaithful (room : Nat) : List (String × Value) → Bool
  | [] => true
  | (k, v) :: fs => !hasPair k.toList && v.isFaithful room && haveFaithful room fs

end

end Value

theorem Layout.mem_newline (l : Layout) {c : Char} (hc : c ∈ l.newline.toList) :
    c = '\n' ∨ c = ' ' := by
  unfold newline at hc
  split at hc
  · rw [String.toList_append, List.mem_append, String.toList_ofList (l := List.replicate _ _)] at hc
    exact hc.imp List.mem_singleton.mp List.eq_of_mem_replicate
  · cases hc

/-- A text is scanned as some lexemes before anything that may come after it. -/
def Scans (After : List Char → Prop) (s : List Char) (ls : List Lexeme) : Prop :=
  ∀ pos r, After r → ∃ xs, xs.map (·.lexeme) = ls ∧
    lexemes pos (s ++ r) = (xs ++ (lexemes (pos + s.length) r).1, (lexemes (pos + s.length) r).2)

def Any (_ : List Char) : Prop := True

namespace Scans
variable {P Q : List Char → Prop} {r s t : List Char} {ls ms : List Lexeme} {x : Lexeme} {l : Layout}

theorem mono (h : Scans P s ls) (hP : ∀ r, Q r → P r) : Scans Q s ls := fun pos r hr =>
  h pos r (hP r hr)

theorem append (hs : Scans P s ls) (ht : Scans Q t ms) (h : ∀ r, Q r → P (t ++ r)) :
    Scans Q (s ++ t) (ls ++ ms) := by
  intro pos r hr
  obtain ⟨xs, hxs, hfirst⟩ := hs pos (t ++ r) (h r hr)
  obtain ⟨ys, hys, hsecond⟩ := ht (pos + s.length) r hr
  refine ⟨xs ++ ys, ?_, ?_⟩
  · rw [List.map_append, hxs, hys]
  · rw [List.append_assoc, hfirst, hsecond, List.length_append, Nat.add_assoc, List.append_assoc]

theorem blank (h : ∀ c ∈ s, isSpace c = true) : Scans Any s [] := by
  intro pos r _
  refine ⟨[], rfl, ?_⟩
  induction s generalizing pos with
  | nil => rfl
  | cons c s ih =>
    rw [List.forall_mem_cons] at h
    rw [List.cons_append, Document.lexemes, if_pos h.1, ih h.2, List.length_cons]
    simp only [Nat.add_assoc, Nat.add_comm 1]

theorem lexeme {c : Char} (hlast : x.isLast = false) (hspace : isSpace c = false)
    (hx : ∀ pos r, P r → firstLexeme pos c (s ++ r) = (x, s.length)) : Scans P (c :: s) [x] := by
  intro pos r hr
  refine ⟨[⟨pos, x⟩], rfl, ?_⟩
  rw [List.cons_append, Document.lexemes, if_neg (by rw [hspace]; decide), hx pos r hr]
  simp only [hlast, Bool.false_eq_true, if_false, List.drop_left, List.length_cons]
  rfl

theorem scalar {v : Value} (h : scalar? s = some (.scalar v, s.length)) : Scans Ends s [.scalar v] := by
  cases s with
  | nil => cases h
  | cons c s =>
    refine lexeme rfl (firstLexeme_of_scalar h 0).1 fun pos r hr => ?_
    rw [← scalar?_append hr] at h
    exact (firstLexeme_of_scalar h pos).2

theorem text {k : String} (hl : l.spacing ≠ .tight) (h : hasPair k.toList = false) :
    Scans Any (l.text k).toList [.text k] := by
  have htext : (l.text k).toList = '"' :: (k.toList.flatMap escapedChar ++ ['"']) := by
    rw [Layout.text, if_neg hl, String.toList_ofList]
    rfl
  rw [htext]
  refine lexeme rfl rfl fun pos r _ => ?_
  have hread : readText pos (pos + 1) [] (k.toList.flatMap escapedChar ++ '"' :: r) =
      .inr (k.toList, pos + 1 + ((k.toList.flatMap escapedChar).length + 1)) := readText_written h
  rw [List.append_assoc, List.singleton_append, firstLexeme, hread]
  simp only [String.ofList_toList, Nat.add_sub_cancel_left, List.length_append,
    List.length_singleton]

theorem newline (l : Layout) : Scans Any l.newline.toList [] := by
  refine blank fun c hc => ?_
  rcases l.mem_newline hc with rfl | rfl <;> rfl

theorem openList : Scans Any "[".toList [.openList] := lexeme rfl rfl fun _ _ _ => rfl

theorem closeList : Scans Any "]".toList [.closeList] := lexeme rfl rfl fun _ _ _ => rfl

theorem openObject : Scans Any "\x7b".toList [.openObject] := lexeme rfl rfl fun _ _ _ => rfl

theorem closeObject : Scans Any "\x7d".toList [.closeObject] := lexeme rfl rfl fun _ _ _ => rfl

theorem comma : Scans Any [','] [.comma] := lexeme rfl rfl fun _ _ _ => rfl

theorem separator (l : Layout) : Scans Any l.separator.toList [.comma] := by
  have hblank (t : String) (ht : Scans Any t.toList []) : Scans Any ("," ++ t).toList [.comma] := by
    rw [String.toList_append]
    exact comma.append ht fun _ _ => trivial
  unfold Layout.separator
  split
  · exact comma
  · exact hblank " " (blank (by simp [isSpace]))
  · exact hblank l.newline (newline l)

theorem colon (l : Layout) : Scans Any l.colon.toList [.colon] := by
  have hcolon : Scans Any [':'] [.colon] := lexeme rfl rfl fun _ _ _ => rfl
  unfold Layout.colon
  split_ifs
  · exact hcolon
  · exact hcolon.append (t := [' ']) (blank (by simp [isSpace])) fun _ _ => trivial

theorem intercalate {sep : List Char} (hsep : Scans Any sep [.comma])
    (hends : ∀ r, Ends (sep ++ r)) {ss : List (List Char)} {lss : List (List Lexeme)}
    (h : List.Forall₂ (Scans Ends) ss lss) :
    Scans Ends (sep.intercalate ss) ([.comma].intercalate lss) := by
  induction h with
  | nil =>
    rw [List.intercalate_nil, List.intercalate_nil]
    exact (blank (by simp)).mono fun _ _ => trivial
  | @cons s ls ss lss hs h ih =>
    cases h with
    | nil =>
      rw [List.intercalate_singleton, List.intercalate_singleton]
      exact hs
    | cons ht hrest =>
      rw [List.intercalate_cons_cons, List.intercalate_cons_cons]
      refine (hs.append hsep fun r _ => hends r).append ih fun _ _ => trivial

theorem ends_separator (l : Layout) (r : List Char) : Ends (l.separator.toList ++ r) := by
  unfold Layout.separator
  split
  · exact .comma r
  · exact .comma (' ' :: r)
  · rw [String.toList_append]
    exact .comma (l.newline.toList ++ r)

theorem ends_newline (l : Layout) (h : Ends r) : Ends (l.newline.toList ++ r) := by
  unfold Layout.newline
  split
  · rw [String.toList_append]
    exact .newline _
  · exact h

theorem enclose {o c : String} {y : Lexeme} (ho : Scans Any o.toList [x]) (hc : Scans Any c.toList [y])
    (hends : ∀ r, Ends (c.toList ++ r)) {ss : List String} {lss : List (List Lexeme)}
    (h : List.Forall₂ (fun s ls => Scans Ends s.toList ls) ss lss) :
    Scans Any (Document.enclose l o c ss).toList (x :: [.comma].intercalate lss ++ [y]) := by
  unfold Document.enclose
  by_cases hss : ss = []
  · obtain rfl := hss
    cases h
    rw [List.isEmpty_nil, if_pos rfl, String.toList_append]
    exact ho.append hc fun _ _ => trivial
  · have hitems : Scans Ends (l.deeper.separator.toList.intercalate (ss.map String.toList))
        ([.comma].intercalate lss) :=
      intercalate (separator _) (ends_separator _) (List.forall₂_map_left_iff.mpr h)
    have hclose : Scans Any (l.newline.toList ++ c.toList) [y] :=
      (newline l).append hc fun _ _ => trivial
    rw [if_neg (by rwa [List.isEmpty_iff])]
    simp only [String.toList_append, String.toList_intercalate, List.append_assoc]
    -- after the last item the closing mark follows, on this line or on the next
    refine ho.append ((newline _).append (hitems.append hclose fun r _ => ?_) fun _ _ => trivial)
      fun _ _ => trivial
    rw [List.append_assoc]
    exact ends_newline l (hends r)

end Scans

namespace Value

theorem scalar?_printReal {x : Real64} (h : readsBack x = true) :
    scalar? (printReal x).toList = some (.scalar (.real x), (printReal x).toList.length) := by
  unfold readsBack at h
  split at h
  · rename_i y n heq
    rw [Bool.and_eq_true, decide_eq_true_eq, decide_eq_true_eq] at h
    rw [heq, h.1, h.2]
  · cases h

mutual

theorem scans_print {l : Layout} (hl : l.spacing ≠ .tight) {room : Nat} (v : Value)
    (h : v.isFaithful room = true) : Scans Ends (v.print l).toList v.lexemes := by
  cases v with
  | null =>
    rw [print]
    exact .scalar rfl
  | bool b =>
    rw [print]
    cases b <;> exact .scalar rfl
  | int n =>
    rw [isFaithful, isWritable_iff, decide_eq_true_eq] at h
    exact .scalar (scalar?_toString h)
  | real x => exact .scalar (scalar?_printReal h)
  | text s =>
    rw [isFaithful, Bool.not_eq_true'] at h
    exact (Scans.text hl h).mono fun _ _ => trivial
  | list vs =>
    rw [isFaithful, Bool.and_eq_true] at h
    have hitems := scans_printItems (l := l.deeper) hl vs h.2
    rw [print]
    exact (Scans.openList.enclose Scans.closeList .closeList hitems).mono fun _ _ => trivial
  | object fs =>
    rw [isFaithful, Bool.and_eq_true] at h
    have hfields := scans_printFields (l := l.deeper) hl fs h.2
    rw [print]
    exact (Scans.openObject.enclose Scans.closeObject .closeObject hfields).mono fun _ _ => trivial

theorem scans_printItems {l : Layout} (hl : l.spacing ≠ .tight) {room : Nat} (vs : List Value)
    (h : areFaithful room vs = true) :
    List.Forall₂ (fun s ls => Scans Ends s.toList ls) (printItems l vs) (itemLexemes vs) := by
  cases vs with
  | nil => exact .nil
  | cons v vs =>
    rw [areFaithful, Bool.and_eq_true] at h
    exact .cons (scans_print hl v h.1) (scans_printItems hl vs h.2)

theorem scans_printFields {l : Layout} (hl : l.spacing ≠ .tight) {room : Nat}
    (fs : List (String × Value)) (h : haveFaithful room fs = true) :
    List.Forall₂ (fun s ls => Scans Ends s.toList ls) (printFields l fs) (fieldLexemes fs) := by
  cases fs with
  | nil => exact .nil
  | cons f fs =>
    obtain ⟨k, v⟩ := f
    rw [haveFaithful, Bool.and_eq_true, Bool.and_eq_true, Bool.not_eq_true'] at h
    refine .cons ?_ (scans_printFields hl fs h.2)
    rw [String.toList_append, String.toList_append]
    exact ((Scans.text hl h.1.1).append (Scans.colon l) fun _ _ => trivial).append
      (scans_print hl v h.1.2) fun _ _ => trivial

end

end Value

end GuildCards.Document
