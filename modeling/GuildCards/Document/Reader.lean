import GuildCards.Document.Lexeme

/-!
Reading a document from its text. The reader goes over the lexemes once and keeps the containers that
are still open; where it stands decides what may come next, and which flaw anything else is.
-/
namespace GuildCards.Document
open Number

inductive Frame where
  | list (items : List Value)
  | object (fields : Fields) (name : String)

inductive Expecting where
  | value
  | itemOrClose
  | nameOrClose (fields : Fields)
  | name (fields : Fields)
  | colon (fields : Fields) (name : String)
  | commaOrClose
  | nothing (v : Value)

structure Reading where
  frames : List Frame
  next : Expecting

/-- Why a text is no document: a flaw at a place, a numeral that is too long, or a container inside so
many others that it is not read; a `record` is an object and no list. -/
inductive ReadError where
  | flaw (cause : Flaw) (place : Nat)
  | overlong (cause : Overlong)
  | tooDeep (record : Bool)
  deriving DecidableEq, Repr

def depthLimit : Nat := 984

def Expecting.flaw : Expecting → Flaw
  | .value | .itemOrClose => .noValue
  | .nameOrClose _ | .name _ => .noName
  | .colon _ _ => .noColon
  | .commaOrClose => .noComma
  | .nothing _ => .extraData

namespace Reading

def finish (v : Value) : List Frame → Reading
  | [] => ⟨[], .nothing v⟩
  | .list vs :: fs => ⟨.list (v :: vs) :: fs, .commaOrClose⟩
  | .object ps n :: fs => ⟨.object (Keyed.put n v ps) n :: fs, .commaOrClose⟩

def begin (fs : List Frame) (place : Nat) : Lexeme → Except ReadError Reading
  | .openList =>
    if fs.length < depthLimit then .ok ⟨.list [] :: fs, .itemOrClose⟩ else .error (.tooDeep false)
  | .openObject =>
    if fs.length < depthLimit then .ok ⟨fs, .nameOrClose []⟩ else .error (.tooDeep true)
  | .text s => .ok (finish (.text s) fs)
  | .scalar v => .ok (finish v fs)
  | .overlong o => .error (.overlong o)
  | .badText flaw p => .error (.flaw flaw p)
  | _ => .error (.flaw .noValue place)

def beginName (fs : List Frame) (ps : Fields) (place : Nat) : Lexeme → Except ReadError Reading
  | .text s => .ok ⟨fs, .colon ps s⟩
  | .badText flaw p => .error (.flaw flaw p)
  | _ => .error (.flaw .noName place)

def step (r : Reading) (x : Placed) : Except ReadError Reading :=
  match r.next, x.lexeme, r.frames with
  | .value, l, fs => begin fs x.place l
  | .itemOrClose, .closeList, .list vs :: fs => .ok (finish (.list vs.reverse) fs)
  | .itemOrClose, l, fs => begin fs x.place l
  | .nameOrClose ps, .closeObject, fs => .ok (finish (.object ps) fs)
  | .nameOrClose ps, l, fs => beginName fs ps x.place l
  | .name ps, l, fs => beginName fs ps x.place l
  | .colon ps n, .colon, fs => .ok ⟨.object ps n :: fs, .value⟩
  | .commaOrClose, .comma, .list vs :: fs => .ok ⟨.list vs :: fs, .value⟩
  | .commaOrClose, .closeList, .list vs :: fs => .ok (finish (.list vs.reverse) fs)
  | .commaOrClose, .comma, .object ps _ :: fs => .ok ⟨fs, .name ps⟩
  | .commaOrClose, .closeObject, .object ps _ :: fs => .ok (finish (.object ps) fs)
  | e, _, _ => .error (.flaw e.flaw x.place)

end Reading

def read (s : List Char) : Except ReadError Value := do
  if s.head? = some '\uFEFF' then throw (.flaw .byteOrderMark 0)
  let (xs, stop) := lexemes 0 s
  let r ← xs.foldlM Reading.step ⟨[], .value⟩
  match r.next with
  | .nothing v => pure v
  | e => throw (.flaw e.flaw stop)

def lineAndColumn (s : List Char) (place : Nat) : Nat × Nat :=
  let before := s.take place
  (before.count '\n' + 1, (before.reverse.takeWhile (· ≠ '\n')).length + 1)

def Flaw.message : Flaw → String
  | .byteOrderMark => "Unexpected UTF-8 BOM (decode using utf-8-sig)"
  | .noValue => "Expecting value"
  | .noName => "Expecting property name enclosed in double quotes"
  | .noColon => "Expecting ':' delimiter"
  | .noComma => "Expecting ',' delimiter"
  | .extraData => "Extra data"
  | .openText => "Unterminated string starting at"
  | .controlCharacter => "Invalid control character at"
  | .badEscape => "Invalid \\escape"
  | .badUnitEscape => "Invalid \\uXXXX escape"

end GuildCards.Document
