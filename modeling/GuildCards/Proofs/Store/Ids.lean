import Mathlib
import GuildCards.Proofs.Play.Run
import GuildCards.Store.File

/-!
The ids under which files keep games. An id names a file if it is made of letters, digits and three
marks of ASCII; a line feed behind it is let through as well. Under such an id the files are read and
written, and under any other nothing is found and nothing changes.
-/
namespace GuildCards.FileStore
open Document

section Characters
variable {c : Char} {id : String}

structure PlainId (id : String) : Prop where
  nonempty : id ≠ ""
  characters : ∀ c ∈ id.toList, ('a' ≤ c ∧ c ≤ 'z') ∨ ('A' ≤ c ∧ c ≤ 'Z') ∨ ('0' ≤ c ∧ c ≤ '9') ∨
    c ∈ ['_', '.', '-']

/-- The ids that name files: the plain ones, with or without a line feed behind them. -/
def Admits (id : String) : Prop := PlainId id ∨ ∃ name, PlainId name ∧ id = name ++ "\n"

theorem isSafeChar_iff : isSafeChar c = true ↔
    ('a' ≤ c ∧ c ≤ 'z') ∨ ('A' ≤ c ∧ c ≤ 'Z') ∨ ('0' ≤ c ∧ c ≤ '9') ∨ c ∈ ['_', '.', '-'] := by
  simp only [isSafeChar, Char.isAlphanum, Char.isAlpha, Char.isUpper, Char.isLower, Char.isDigit,
    Bool.or_eq_true, Bool.and_eq_true, decide_eq_true_eq, ge_iff_le, Char.le_def, List.mem_cons,
    List.not_mem_nil, or_false]
  tauto

theorem plainId_iff : PlainId id ↔ (!id.toList.isEmpty && id.toList.all isSafeChar) = true := by
  have hempty : id.toList.isEmpty = false ↔ id ≠ "" := by
    rw [List.isEmpty_eq_false_iff, Ne, String.toList_eq_nil_iff]
  rw [Bool.and_eq_true, Bool.not_eq_true', hempty, List.all_eq_true]
  simp only [isSafeChar_iff]
  exact ⟨fun h => ⟨h.nonempty, h.characters⟩, fun h => ⟨h.1, h.2⟩⟩

theorem not_plainId_of_line_feed (h : id.toList.getLast? = some '\n') : ¬PlainId id := by
  intro hplain
  have hsafe := isSafeChar_iff.mpr (hplain.characters _ (List.mem_of_getLast? h))
  revert hsafe
  decide

theorem isSafe_iff : isSafe id = true ↔ Admits id := by
  unfold isSafe
  simp only []
  split_ifs with hlast
  · obtain ⟨cs, hcs⟩ := List.getLast?_eq_some_iff.mp hlast
    have hname : String.ofList cs ++ "\n" = id := by
      rw [← String.toList_inj, String.toList_append, String.toList_ofList, hcs]
      rfl
    rw [hcs, List.dropLast_concat]
    constructor
    · intro h
      exact .inr ⟨String.ofList cs, plainId_iff.mpr (by rwa [String.toList_ofList]), hname.symm⟩
    · rintro (hplain | ⟨name, hplain, rfl⟩)
      · exact absurd hplain (not_plainId_of_line_feed hlast)
      · rw [String.toList_append] at hcs
        obtain ⟨hcs, -⟩ := List.append_inj' hcs rfl
        exact hcs ▸ plainId_iff.mp hplain
  · rw [← plainId_iff]
    refine ⟨.inl, Or.rec (fun hplain => hplain) ?_⟩
    rintro ⟨name, -, rfl⟩
    rw [String.toList_append] at hlast
    exact absurd List.getLast?_concat hlast

end Characters

section Files
variable {ι ν : Type} {id : String}

theorem needSafe_bind {α : Type} (f : Except Fault α) :
    (needSafe id >>= fun _ => f) = if isSafe id then f else .error (.unsafeId id) := by
  unfold needSafe
  split_ifs <;> rfl

theorem delete_eq_ite (store : FileStore ι ν) (id : String) : store.delete id =
    if isSafe id then .ok ⟨store.files.erase id⟩ else .error (.unsafeId id) := needSafe_bind _

variable [Label ι] [Amount ν]

theorem save_eq_ite (store : FileStore ι ν) (id : String) (g : State ι ν) : store.save id g =
    if isSafe id then g.toText.map fun text => ⟨store.files.put id text⟩
    else .error (.unsafeId id) := by
  rw [save, needSafe_bind]
  cases g.toText <;> rfl

/-- Only ids that name files are let through. Under such an id, a game is loaded from the file of
that id, if there is one; a game that can be written is saved in that file; and deleting takes the
file away. Under any other id no game is found, whatever the files hold, and saving and deleting fail
for the id and leave no store. -/
theorem ids_guarded (rules : Rulebook ι) (store : FileStore ι ν) (id : String) (g : State ι ν) :
    (Admits id →
      (store.files.get? id = none → store.load rules id = .ok none) ∧
      (∀ text, store.files.get? id = some text →
        store.load rules id = (State.ofText rules text).map some) ∧
      store.save id g = g.toText.map (fun text => ⟨store.files.put id text⟩) ∧
      store.delete id = .ok ⟨store.files.erase id⟩) ∧
    (¬Admits id →
      store.load rules id = .ok none ∧
      store.save id g = .error (.unsafeId id) ∧
      store.delete id = .error (.unsafeId id)) := by
  rw [load, save_eq_ite, delete_eq_ite, ← isSafe_iff]
  constructor
  · intro hid
    rw [if_pos hid, if_pos hid, if_pos hid]
    refine ⟨fun hnone => ?_, fun text htext => ?_, rfl, rfl⟩
    · rw [hnone]
    · rw [htext]
  · intro hid
    rw [if_neg hid, if_neg hid, if_neg hid]
    exact ⟨rfl, rfl, rfl⟩

/-- An id that climbs out of the directory is stopped; one that goes on with a line feed is not. -/
theorem ids_guarded_sample :
    ¬Admits "../escape" ∧ Admits "guilds_0-1.b\n" ∧
      ∃ g : State String Int,
        newGame sampleRulebook unshuffled "game" 7 ["Ada", "Ben"] = .ok g ∧
          ({} : FileStore String Int).save "../escape" g = .error (.unsafeId "../escape") ∧
          ({} : FileStore String Int).save "guilds_0-1.b\n" g =
            g.toText.map fun text => ⟨[("guilds_0-1.b\n", text)]⟩ := by
  have hstopped : ¬Admits "../escape" := by
    rw [← isSafe_iff]
    decide
  have hadmitted : Admits "guilds_0-1.b\n" := isSafe_iff.mp (by decide)
  obtain ⟨g, h⟩ : ∃ g : State String Int,
      newGame sampleRulebook unshuffled "game" 7 ["Ada", "Ben"] = .ok g := ⟨_, rfl⟩
  exact ⟨hstopped, hadmitted, g, h, ((ids_guarded sampleRulebook {} "../escape" g).2 hstopped).2.1,
    ((ids_guarded sampleRulebook {} "guilds_0-1.b\n" g).1 hadmitted).2.2.1⟩

/-- An id that is not plain names a file: a game is saved, looked for and deleted under it. -/
theorem line_feed_admitted :
    ¬PlainId "game\n" ∧
      ∃ (g : State String Int) (text : String),
        let files : FileStore String Int := ⟨[("game\n", text)]⟩
        newGame sampleRulebook unshuffled "game" 7 ["Ada", "Ben"] = .ok g ∧
          ({} : FileStore String Int).save "game\n" g = .ok files ∧
          files.load sampleRulebook "game\n" = (State.ofText sampleRulebook text).map some ∧
          files.delete "game\n" = .ok {} := by
  have hplain : ¬PlainId "game\n" := not_plainId_of_line_feed (by decide)
  have hsafe : isSafe "game\n" = true := by decide
  obtain ⟨g, h⟩ : ∃ g : State String Int,
      newGame sampleRulebook unshuffled "game" 7 ["Ada", "Ben"] = .ok g := ⟨_, rfl⟩
  have hwritable : g.toRecord.isWritable = true := by
    obtain rfl := Except.ok.inj h
    decide +kernel
  refine ⟨hplain, g, g.toRecord.print .indented, h, ?_, ?_, ?_⟩
  · rw [save_eq_ite, if_pos hsafe, State.toText, if_pos hwritable]
    rfl
  · rw [load, if_pos hsafe]
    rfl
  · rw [delete_eq_ite, if_pos hsafe]
    rfl

end Files

end GuildCards.FileStore
