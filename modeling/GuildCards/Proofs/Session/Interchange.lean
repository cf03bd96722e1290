import Mathlib
import GuildCards.Proofs.Cards.Shuffling
import GuildCards.Proofs.Document.ReadBack
import GuildCards.Proofs.Session.Games
import GuildCards.Proofs.State.RoundTrip
import GuildCards.Proofs.Store.Ids

/-!
It makes no difference whether a session keeps its games themselves or a text file for each. The session
over files mirrors the one in memory: whatever the one holds, the other reads from its files. A file is
read again as it was saved, since the state comes back from its document and the document from its text.
-/
namespace GuildCards
open Document

structure Document.Value.Kept (v : Value) : Prop where
  writable : v.isWritable = true
  read : Document.read (Text.unifyNewlines (v.print .indented).toList) = .ok v

theorem Document.Value.kept {v : Value} (h : v.isFaithful depthLimit = true) : v.Kept where
  writable := isWritable_of_isFaithful v h
  read := by
    have hlines : Layout.indented.spacing ≠ .tight := by decide
    have hreturn : '\r' ∉ (v.print .indented).toList := by
      intro hr
      rcases written_print hlines v _ hr with hc | hc <;> exact absurd hc (by decide)
    rw [Text.unifyNewlines_of_no_return hreturn, read_print hlines h]

/-- A game that well-typed moves came to from a deal. -/
def WellPlayed (rules : Rulebook String) (g : State String Int) : Prop :=
  ∃ id seed names g₀ steps, newGame rules Shuffle.seeded id seed names = .ok g₀ ∧
    (∀ x ∈ steps, Step.WellTyped x) ∧ g = g₀.run rules Shuffle.seeded steps

variable {rules : Rulebook String} {g : State String Int} {m : Move} {r : Played String Int}
  {now : Number.Real64} {id : String}

namespace WellPlayed

theorem step (h : WellPlayed rules g) {x : Step} (hx : x.WellTyped) :
    WellPlayed rules (g.after rules Shuffle.seeded x) := by
  obtain ⟨id, seed, names, g₀, steps, hdealt, hsteps, rfl⟩ := h
  refine ⟨id, seed, names, g₀, steps ++ [x], hdealt, ?_, ?_⟩
  · rw [List.forall_mem_append, List.forall_mem_singleton]
    exact ⟨hsteps, hx⟩
  · rw [State.run_append]
    rfl

theorem deal {seed : Int} {names : List String}
    (h : newGame rules Shuffle.seeded id seed names = .ok g) :
    WellPlayed rules ((g.note createdAt now).note updatedAt now) := by
  have hg : WellPlayed rules g := ⟨id, seed, names, g, [], h, by simp, rfl⟩
  exact (hg.step (x := .stamp createdAt now) trivial).step (x := .stamp updatedAt now) trivial

theorem play (h : WellPlayed rules g) (hm : m.WellTyped)
    (hr : g.play rules Shuffle.seeded m = .ok r) :
    WellPlayed rules ((r.state.closed rules).note updatedAt now) := by
  have hplayed := (h.step (x := .move m) hm).step (x := .close) trivial
  rw [State.after_close] at hplayed
  change WellPlayed rules ((g.next rules Shuffle.seeded m).closed rules) at hplayed
  rw [State.next_of_play hr] at hplayed
  exact hplayed.step (x := .stamp updatedAt now) trivial

theorem storable (h : WellPlayed rules g) (hd : Distinct rules.cards) : g.Storable rules := by
  obtain ⟨id, seed, names, g₀, steps, hdealt, hsteps, rfl⟩ := h
  exact State.storable_run hd permutes_seeded hdealt hsteps

end WellPlayed

namespace FileStore
variable {store : FileStore String Int}

theorem ofText_toText (hg : g.Storable rules) (hk : g.toRecord.Kept) :
    State.ofText rules (g.toRecord.print .indented) = .ok g := by
  unfold State.ofText
  simp only [hk.read, Except.mapError, ok_bind]
  exact State.ofRecord_toRecord hg

theorem save_eq (store : FileStore String Int) (hid : isSafe id = true) (hk : g.toRecord.Kept) :
    Store.save store id g = .ok ⟨store.files.put id (g.toRecord.print .indented)⟩ := by
  change store.save id g = _
  have htext : g.toText = .ok (g.toRecord.print .indented) := by
    simp only [State.toText, hk.writable, if_true]
  rw [save_eq_ite, if_pos hid, htext]
  rfl

theorem isSafe_of_save {store' : FileStore String Int} (h : Store.save store id g = .ok store') :
    isSafe id = true := by
  change store.save id g = _ at h
  rw [save_eq_ite] at h
  split_ifs at h with hid
  exact hid

theorem isSafe_of_held (h : Store.load rules store id = .ok (some g)) : isSafe id = true := by
  change store.load rules id = _ at h
  unfold load at h
  split_ifs at h with hid
  · exact hid
  · cases h

theorem keeps (hg : g.Storable rules) (hk : g.toRecord.Kept) :
    Store.Keeps (FileStore String Int) rules g := by
  intro store store' id hsave other
  have hid := isSafe_of_save hsave
  rw [save_eq store hid hk] at hsave
  obtain rfl := Except.ok.inj hsave
  change load rules _ other = if other = id then .ok (some g) else store.load rules other
  unfold load
  rw [Keyed.get?_put]
  by_cases hother : other = id
  · rw [if_pos hother, if_pos hother.symm, hother, if_pos hid]
    simp only [ofText_toText hg hk]
    rfl
  · rw [if_neg hother, if_neg (Ne.symm hother)]

end FileStore

def Call.WellTyped : Call → Prop
  | .submit _ m => m.WellTyped
  | _ => True

namespace Session

def onto {σ τ : Type} (s : Session σ String) (store : τ) : Session τ String :=
  { rules := s.rules, supply := s.supply, store, times := s.times, made := s.made }

/-- Files from which every game is read that a session has in memory. -/
structure Mirrors (s : Session (MemoryStore String Int) String) (store : FileStore String Int) :
    Prop where
  load : ∀ id, Store.load s.rules store id = Store.load s.rules s.store id
  played : ∀ id g, s.Holds id g → WellPlayed s.rules g

end Session

def Done.onto {σ τ α : Type} (d : Done σ String α) (store : τ) : Done τ String α :=
  ⟨d.value, d.log, d.session.onto store⟩

namespace Session.Mirrors
variable {s : Session (MemoryStore String Int) String} {store : FileStore String Int}

theorem game (h : Mirrors s store) (id : String) : (s.onto store).game id = s.game id := by
  unfold Session.game
  exact congrArg (· >>= _) (h.load id)

theorem save (h : Mirrors s store) (hd : Distinct s.rules.cards) (hid : FileStore.isSafe id = true)
    (hg : WellPlayed s.rules g) (hk : g.toRecord.Kept) (times made : Nat) :
    ∃ memory files, Store.save s.store id g = .ok memory ∧ Store.save store id g = .ok files ∧
      Mirrors { s with store := memory, times := times, made := made } files := by
  have hmemory := MemoryStore.keeps s.rules g s.store _ id rfl
  have hfiles := FileStore.keeps (hg.storable hd) hk store _ id (FileStore.save_eq store hid hk)
  refine ⟨_, _, rfl, FileStore.save_eq store hid hk, fun other => ?_, fun other g' hg' => ?_⟩
  · exact (hfiles other).trans ((hmemory other).trans (by rw [h.load])).symm
  · have hload := (hmemory other).symm.trans hg'
    split_ifs at hload with hother
    · obtain rfl := Option.some.inj (Except.ok.inj hload)
      exact hg
    · exact h.played other g' hload

theorem create (h : Mirrors s store) (hd : Distinct s.rules.cards)
    (hsafe : FileStore.isSafe (s.supply.id s.made) = true) {names : List String}
    {seed : Option Int} (hkept : ∀ g, (s.create names seed).value = .ok g → g.toRecord.Kept) :
    ∃ files, (s.onto store).create names seed = (s.create names seed).onto files ∧
      Mirrors (s.create names seed).session files := by
  cases hg : newGame s.rules Shuffle.seeded (s.supply.id s.made)
      (seed.getD (s.supply.seed s.made)) names with
  | error f =>
    have hfiles : (s.onto store).create names seed = ⟨.error f, [], s.onto store⟩ :=
      create_of_error hg
    rw [create_of_error hg, hfiles]
    exact ⟨store, rfl, h⟩
  | ok g =>
    have hfiles := create_of_dealt (s := s.onto store) hg
    obtain ⟨memory, files, hmemory, hfile, hmirrors⟩ := h.save hd hsafe (WellPlayed.deal hg)
      (hkept _ (by rw [create_of_dealt hg]; rfl)) (s.times + 1) (s.made + 1)
    change Store.save (s.onto store).store ((s.onto store).supply.id (s.onto store).made)
      ((s.onto store).opened g) = .ok files at hfile
    change Store.save s.store (s.supply.id s.made) (s.opened g) = .ok memory at hmemory
    rw [hfile] at hfiles
    rw [create_of_dealt hg, hmemory, hfiles]
    exact ⟨files, rfl, hmirrors⟩

theorem submit (h : Mirrors s store) (hd : Distinct s.rules.cards) (hm : m.WellTyped)
    (hkept : ∀ r g, (s.submit id m).value = .ok ⟨.ok r, g⟩ → g.toRecord.Kept) :
    ∃ files, (s.onto store).submit id m = (s.submit id m).onto files ∧
      Mirrors (s.submit id m).session files := by
  cases hg : s.game id with
  | error f =>
    have hfiles : (s.onto store).submit id m = ⟨.error f, [], s.onto store⟩ :=
      submit_of_error ((h.game id).trans hg)
    rw [submit_of_error hg, hfiles]
    exact ⟨store, rfl, h⟩
  | ok g =>
    have hheld : s.Holds id g := game_eq_ok.mp hg
    have hheld' : (s.onto store).Holds id g := (h.load id).trans hheld
    cases hr : g.play s.rules Shuffle.seeded m with
    | error why =>
      rw [submit_of_refused hheld hr, submit_of_refused (s := s.onto store) hheld' hr]
      cases why <;> exact ⟨store, rfl, h⟩
    | ok r =>
      have hmemory := submit_of_played hheld hr
      have hfiles := submit_of_played (s := s.onto store) hheld' hr
      -- the standings of a game that ends are logged before it is saved, and may be at fault
      cases hlast : endedLog id g (r.state.closed s.rules) with
      | error f =>
        have hlast' : endedLog id g (r.state.closed (s.onto store).rules) = .error f := hlast
        rw [hlast] at hmemory
        rw [hlast'] at hfiles
        rw [hmemory, hfiles]
        exact ⟨store, rfl, h⟩
      | ok last =>
        have hlast' : endedLog id g (r.state.closed (s.onto store).rules) = .ok last := hlast
        have hsafe := FileStore.isSafe_of_held hheld'
        have hplayed : WellPlayed s.rules (s.settled r.state) := (h.played id g hheld).play hm hr
        rw [hlast] at hmemory
        rw [hlast'] at hfiles
        simp only [] at hmemory hfiles
        obtain ⟨memory, files, hsaved, hfile, hmirrors⟩ := h.save hd hsafe hplayed
          (hkept _ _ (by rw [hmemory]; rfl)) (s.times + 1) s.made
        change Store.save (s.onto store).store id ((s.onto store).settled r.state) = .ok files
          at hfile
        rw [hfile] at hfiles
        rw [hsaved] at hmemory
        rw [hmemory, hfiles]
        exact ⟨files, rfl, hmirrors⟩

theorem call (h : Mirrors s store) (hd : Distinct s.rules.cards)
    (hsafe : ∀ n, FileStore.isSafe (s.supply.id n) = true) {c : Call} (hc : c.WellTyped)
    (hkept : ∀ g, (s.reply c).saved? c = some g → g.toRecord.Kept) :
    ∃ files, (s.onto store).call c = (s.call c).onto files ∧ Mirrors (s.next c) files := by
  cases c with
  | create names seed =>
    have hvalue (g : State String Int) (hg : (s.create names seed).value = .ok g) :
        (s.reply (.create names seed)).saved? (.create names seed) = some g := by
      have hx : (s.reply (.create names seed)).value = .ok (.game g) :=
        congrArg (Except.map Answer.game) hg
      rw [Reply.saved?, hx]
    obtain ⟨files, heq, hmirrors⟩ := h.create hd (hsafe s.made) fun g hg => hkept g (hvalue g hg)
    exact ⟨files, congrArg (Done.map · Answer.game) heq, hmirrors⟩
  | submit id m =>
    have hvalue (r : Played String Int) (g : State String Int)
        (hg : (s.submit id m).value = .ok ⟨.ok r, g⟩) :
        (s.reply (.submit id m)).saved? (.submit id m) = some g := by
      have hx : (s.reply (.submit id m)).value = .ok (.submission ⟨.ok r, g⟩) :=
        congrArg (Except.map Answer.submission) hg
      simp only [Reply.saved?, Reply.submission?, hx]
      rfl
    obtain ⟨files, heq, hmirrors⟩ := h.submit hd hc fun r g hg => hkept g (hvalue r g hg)
    exact ⟨files, congrArg (Done.map · Answer.submission) heq, hmirrors⟩
  | get id =>
    refine ⟨store, ?_, h⟩
    change Done.mk (((s.onto store).game id).map Answer.game) _ _ = _
    rw [h.game]
    rfl
  | legalMoves id =>
    refine ⟨store, ?_, h⟩
    change Done.mk ((((s.onto store).game id) >>= State.legalMoves s.rules).map Answer.moves) _ _ = _
    rw [h.game]
    rfl
  | standings id =>
    refine ⟨store, ?_, h⟩
    change Done.mk ((((s.onto store).game id) >>= State.standings).map Answer.standings) _ _ = _
    rw [h.game]
    rfl

theorem transcript (h : Mirrors s store) (hd : Distinct s.rules.cards)
    (hsafe : ∀ n, FileStore.isSafe (s.supply.id n) = true) {calls : List Call}
    (hcalls : ∀ c ∈ calls, c.WellTyped)
    (hkept : ∀ g ∈ (s.transcript calls).saved, g.toRecord.Kept) :
    (s.onto store).transcript calls = s.transcript calls := by
  induction calls generalizing s store with
  | nil => rfl
  | cons c cs ih =>
    rw [List.forall_mem_cons] at hcalls
    have hfirst : ∀ g, (s.reply c).saved? c = some g → g.toRecord.Kept := fun g hg =>
      hkept g (by simp [Session.transcript, Transcript.saved, hg])
    have hlater : ∀ g ∈ ((s.next c).transcript cs).saved, g.toRecord.Kept := fun g hg =>
      hkept g (by
        rw [Session.transcript, ← List.singleton_append, Transcript.saved_append]
        exact List.mem_append_right _ hg)
    obtain ⟨files, heq, hmirrors⟩ := h.call hd hsafe hcalls.1 hfirst
    have hc := s.outcome c
    have hreply : (s.onto store).reply c = s.reply c := by
      unfold reply
      rw [heq]
      rfl
    have hnext : (s.onto store).next c = (s.next c).onto files := congrArg Done.session heq
    rw [Session.transcript, Session.transcript, hreply, hnext]
    rw [← hc.rules_eq] at hd
    rw [← hc.supply_eq] at hsafe
    rw [ih hmirrors hd hsafe hcalls.2 hlater]

end Session.Mirrors

def Session.begin {σ : Type} (rules : Rulebook String) (supply : Supply) (store : σ) :
    Session σ String :=
  { rules, supply, store }

/-- The two stores are interchangeable. Whatever is asked of a session, with well-typed moves, every call
is answered and logged alike whether it keeps its games in memory or in files, as long as ids are safe
and the documents of the games that are saved come back from their texts. -/
theorem stores_interchangeable {rules : Rulebook String} {supply : Supply} {calls : List Call}
    (hd : Distinct rules.cards) (hsafe : ∀ n, FileStore.isSafe (supply.id n) = true)
    (hcalls : ∀ c ∈ calls, c.WellTyped)
    (hkept : ∀ g ∈
      ((Session.begin rules supply ({} : MemoryStore String Int)).transcript calls).saved,
      g.toRecord.Kept) :
    (Session.begin rules supply ({} : FileStore String Int)).transcript calls =
      (Session.begin rules supply ({} : MemoryStore String Int)).transcript calls := by
  have hmirrors : Session.Mirrors (Session.begin rules supply ({} : MemoryStore String Int)) {} := by
    refine ⟨fun id => ?_, fun id g hg => ?_⟩
    · change FileStore.load rules {} id = .ok none
      unfold FileStore.load
      split_ifs <;> rfl
    · cases hg
  exact hmirrors.transcript hd hsafe hcalls hkept

theorem isSafe_sample (n : Nat) : FileStore.isSafe (sampleSession.supply.id n) = true := by
  have hlast : (List.replicate (n + 1) 'g').getLast? = some 'g' := by
    rw [List.getLast?_replicate, if_neg (Nat.succ_ne_zero n)]
  change FileStore.isSafe (String.ofList (List.replicate (n + 1) 'g')) = true
  unfold FileStore.isSafe
  simp only [String.toList_ofList, hlast]
  simp [FileStore.isSafeChar, List.all_replicate]

theorem stores_interchangeable_sample :
    (Session.begin smallRulebook sampleSession.supply ({} : FileStore String Int)).transcript
        sampleCalls =
      (Session.begin smallRulebook sampleSession.supply ({} : MemoryStore String Int)).transcript
        sampleCalls := by
  have hfaithful : (((Session.begin smallRulebook sampleSession.supply
      ({} : MemoryStore String Int)).transcript sampleCalls).saved.all
        fun g => g.toRecord.isFaithful depthLimit) = true := by
    decide +kernel
  have hmove (p : String) : (Move.plain .endTurn p).WellTyped :=
    ⟨.inr ⟨p, rfl⟩, .inl rfl, .inl rfl, .inl rfl, .inl rfl⟩
  refine stores_interchangeable (distinct_sample.sublist (List.take_sublist 1 _)) isSafe_sample ?_
    fun g hg => Value.kept (List.all_eq_true.mp hfaithful g hg)
  simp [sampleCalls, Call.WellTyped, hmove]

end GuildCards
