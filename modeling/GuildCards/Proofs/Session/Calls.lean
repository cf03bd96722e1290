import Mathlib
import GuildCards.Proofs.Play.Ending
import GuildCards.Store.Memory

/-!
Calls of a session. A call asks for a new game, for a move in a game or for what is known of a game. The
transcript of a session has every call with what came of it. A call that changes the store saves one
game in it: a new one, or one in which a move was accepted.
-/
namespace GuildCards
open Document

inductive Call where
  | create (names : List String) (seed : Option Int)
  | get (id : String)
  | submit (id : String) (m : Move)
  | legalMoves (id : String)
  | standings (id : String)

inductive Answer where
  | game (g : State String Int)
  | submission (x : Submission String Int)
  | moves (ms : List Move)
  | standings (rs : List (Standing String Int))

structure Reply where
  value : Except Fault Answer
  log : List LogEntry := []

abbrev Transcript := List (Call × Reply)

def Reply.submission? (x : Reply) : Option (Submission String Int) :=
  match x.value with
  | .ok (.submission y) => some y
  | _ => none

def Reply.saved? (x : Reply) : Call → Option (State String Int)
  | .create _ _ =>
    match x.value with
    | .ok (.game g) => some g
    | _ => none
  | .submit _ _ => (x.submission?.filter (·.outcome.isOk)).map (·.state)
  | _ => none

namespace Transcript

/-- The moves submitted to a game that were judged, each with what came of it. -/
def judged (t : Transcript) (id : String) : List (Move × Submission String Int) :=
  t.filterMap fun (c, x) =>
    match c with
    | .submit other m => if other = id then x.submission?.map (m, ·) else none
    | _ => none

def submitted (t : Transcript) (id : String) : List Move := (t.judged id).map (·.1)

def accepted (t : Transcript) (id : String) : List Move :=
  ((t.judged id).filter (·.2.outcome.isOk)).map (·.1)

def saved (t : Transcript) : List (State String Int) := t.filterMap fun (c, x) => x.saved? c

end Transcript

def Done.map {σ α β : Type} (d : Done σ String α) (f : α → β) : Done σ String β :=
  ⟨d.value.map f, d.log, d.session⟩

namespace Session
variable {σ : Type} [Store σ String Int]

def call (s : Session σ String) : Call → Done σ String Answer
  | .create names seed => (s.create names seed).map .game
  | .get id => ⟨(s.game id).map .game, [], s⟩
  | .submit id m => (s.submit id m).map .submission
  | .legalMoves id => ⟨(s.legalMoves id).map .moves, [], s⟩
  | .standings id => ⟨(s.standings id).map .standings, [], s⟩

def reply (s : Session σ String) (c : Call) : Reply := ⟨(s.call c).value, (s.call c).log⟩

def next (s : Session σ String) (c : Call) : Session σ String := (s.call c).session

def run (s : Session σ String) (calls : List Call) : Session σ String := calls.foldl next s

def transcript (s : Session σ String) : List Call → Transcript
  | [] => []
  | c :: cs => (c, s.reply c) :: (s.next c).transcript cs

def ids (s : Session σ String) : List String := (List.range s.made).map s.supply.id

def Holds (s : Session σ String) (id : String) (g : State String Int) : Prop :=
  Store.load s.rules s.store id = .ok (some g)

structure Fresh (s : Session σ String) : Prop where
  empty : ∀ id, Store.load s.rules s.store id = .ok none
  made : s.made = 0

variable {s t : Session σ String} {c : Call} {cs : List Call}

@[simp] theorem run_nil : s.run [] = s := rfl

theorem run_append (cs ds : List Call) : s.run (cs ++ ds) = (s.run cs).run ds := List.foldl_append

theorem run_concat (cs : List Call) (c : Call) : s.run (cs ++ [c]) = (s.run cs).next c :=
  run_append cs [c]

theorem transcript_append (cs ds : List Call) :
    s.transcript (cs ++ ds) = s.transcript cs ++ (s.run cs).transcript ds := by
  induction cs generalizing s with
  | nil => rfl
  | cons c cs ih => exact congrArg ((c, s.reply c) :: ·) ih

theorem transcript_concat (cs : List Call) (c : Call) :
    s.transcript (cs ++ [c]) = s.transcript cs ++ [(c, (s.run cs).reply c)] :=
  transcript_append cs [c]

def opened (s : Session σ String) (g : State String Int) : State String Int :=
  (g.note createdAt (s.supply.time s.times)).note updatedAt (s.supply.time s.times)

def settled (s : Session σ String) (g : State String Int) : State String Int :=
  (g.closed s.rules).note updatedAt (s.supply.time s.times)

inductive Outcome (s : Session σ String) : Call → Reply → Session σ String → Prop where
  /-- nothing is saved, and no move is judged -/
  | stays {c : Call} {x : Reply} {t : Session σ String} (rules : t.rules = s.rules)
    (supply : t.supply = s.supply) (store : t.store = s.store) (made : s.made ≤ t.made)
    (saved : x.saved? c = none) (submission : x.submission? = none) : Outcome s c x t
  | creates {names : List String} {seed : Option Int} {g : State String Int} {log : List LogEntry}
    {store : σ}
    (dealt : newGame s.rules Shuffle.seeded (s.supply.id s.made) (seed.getD (s.supply.seed s.made))
      names = .ok g)
    (saved : Store.save s.store (s.supply.id s.made) (s.opened g) = .ok store) :
    Outcome s (.create names seed) ⟨.ok (.game (s.opened g)), log⟩
      { s with store, times := s.times + 1, made := s.made + 1 }
  | refuses {id : String} {m : Move} {g : State String Int} {why : Refusal} {log : List LogEntry}
    (held : s.Holds id g) (refused : g.play s.rules Shuffle.seeded m = .error why) :
    Outcome s (.submit id m) ⟨.ok (.submission ⟨.error why, g⟩), log⟩ s
  | plays {id : String} {m : Move} {g : State String Int} {r : Played String Int}
    {log : List LogEntry} {store : σ} (held : s.Holds id g)
    (played : g.play s.rules Shuffle.seeded m = .ok r)
    (saved : Store.save s.store id (s.settled r.state) = .ok store) :
    Outcome s (.submit id m)
      ⟨.ok (.submission ⟨.ok { r with state := s.settled r.state }, s.settled r.state⟩), log⟩
      { s with store, times := s.times + 1 }

theorem game_eq_ok {id : String} {g : State String Int} : s.game id = .ok g ↔ s.Holds id g := by
  unfold game Holds
  rw [bind_eq_ok]
  constructor
  · rintro ⟨o, ho, h⟩
    cases o with
    | none => cases h
    | some g' => rw [ho, pure_eq_ok.mp h]
  · intro h
    exact ⟨_, h, rfl⟩

variable {names : List String} {seed : Option Int} {id : String} {m : Move} {f : Fault}
  {g : State String Int} {r : Played String Int} {why : Refusal}

theorem create_of_error
    (h : newGame (ν := Int) s.rules Shuffle.seeded (s.supply.id s.made)
      (seed.getD (s.supply.seed s.made)) names = .error f) :
    s.create names seed = ⟨.error f, [], s⟩ := by
  have hdealt : newGame s.rules Shuffle.seeded (Label.ofText (s.supply.id s.made))
      (seed.getD (Amount.ofInt (s.supply.seed s.made))) names = .error f := h
  unfold create thenDo
  simp only [hdealt]

theorem create_of_dealt
    (h : newGame s.rules Shuffle.seeded (s.supply.id s.made) (seed.getD (s.supply.seed s.made))
      names = .ok g) :
    s.create names seed =
      match Store.save s.store (s.supply.id s.made) (s.opened g) with
      | .ok store =>
        ⟨.ok (s.opened g), [.created (s.supply.id s.made) g.players.length (.int g.seed)],
          { s with store, times := s.times + 1, made := s.made + 1 }⟩
      | .error f => ⟨.error f, [], { s with times := s.times + 1, made := s.made + 1 }⟩ := by
  have hdealt : newGame s.rules Shuffle.seeded (Label.ofText (s.supply.id s.made))
      (seed.getD (Amount.ofInt (s.supply.seed s.made))) names = .ok g := h
  unfold create thenDo
  simp only [hdealt]
  rfl

theorem submit_of_error (h : s.game id = .error f) : s.submit id m = ⟨.error f, [], s⟩ := by
  unfold submit thenDo
  rw [h]

theorem submit_of_refused (hg : s.Holds id g)
    (h : g.play s.rules Shuffle.seeded m = .error why) :
    s.submit id m =
      match why with
      | .broken f => ⟨.error f, [], s⟩
      | why => ⟨.ok ⟨.error why, g⟩, [.rejected id m why], s⟩ := by
  unfold submit thenDo
  rw [game_eq_ok.mpr hg]
  simp only [h]
  cases why <;> rfl

theorem submit_of_played (hg : s.Holds id g) (h : g.play s.rules Shuffle.seeded m = .ok r) :
    s.submit id m =
      match endedLog id g (r.state.closed s.rules) with
      | .error f => ⟨.error f, s.playedLog id m r, s⟩
      | .ok last =>
        match Store.save s.store id (s.settled r.state) with
        | .ok store =>
          ⟨.ok ⟨.ok { r with state := s.settled r.state }, s.settled r.state⟩,
            s.playedLog id m r ++ last, { s with store, times := s.times + 1 }⟩
        | .error f =>
          ⟨.error f, s.playedLog id m r ++ last, { s with times := s.times + 1 }⟩ := by
  unfold submit thenDo
  rw [game_eq_ok.mpr hg]
  simp only [h, State.endIfOver_int]
  cases endedLog id g (r.state.closed s.rules) with
  | error f => rfl
  | ok last => rfl

theorem outcome_create (s : Session σ String) (names : List String) (seed : Option Int) :
    Outcome s (.create names seed) (s.reply (.create names seed)) (s.next (.create names seed)) := by
  unfold reply next call Done.map
  cases hg : newGame s.rules Shuffle.seeded (s.supply.id s.made)
      (seed.getD (s.supply.seed s.made)) names with
  | error f =>
    simp only [create_of_error hg]
    exact .stays rfl rfl rfl le_rfl rfl rfl
  | ok g =>
    simp only [create_of_dealt hg]
    cases hsave : Store.save s.store (s.supply.id s.made) (s.opened g) with
    | error f => exact .stays rfl rfl rfl (Nat.le_succ _) rfl rfl
    | ok store => exact .creates hg hsave

theorem outcome_submit (s : Session σ String) (id : String) (m : Move) :
    Outcome s (.submit id m) (s.reply (.submit id m)) (s.next (.submit id m)) := by
  unfold reply next call Done.map
  cases hg : s.game id with
  | error f =>
    simp only [submit_of_error hg]
    exact .stays rfl rfl rfl le_rfl rfl rfl
  | ok g =>
    have hheld := game_eq_ok.mp hg
    cases hr : g.play s.rules Shuffle.seeded m with
    | error why =>
      simp only [submit_of_refused hheld hr]
      cases why with
      | broken f => exact .stays rfl rfl rfl le_rfl rfl rfl
      | _ => exact .refuses hheld hr
    | ok r =>
      simp only [submit_of_played hheld hr]
      cases hlast : endedLog id g (r.state.closed s.rules) with
      | error f => exact .stays rfl rfl rfl le_rfl rfl rfl
      | ok last =>
        simp only []
        cases hsave : Store.save s.store id (s.settled r.state) with
        | error f => exact .stays rfl rfl rfl le_rfl rfl rfl
        | ok store => exact .plays hheld hr hsave

theorem outcome (s : Session σ String) (c : Call) : Outcome s c (s.reply c) (s.next c) := by
  cases c with
  | create names seed => exact outcome_create s names seed
  | submit id m => exact outcome_submit s id m
  | get id =>
    refine .stays rfl rfl rfl le_rfl rfl ?_
    change Reply.submission? ⟨(s.game id).map .game, []⟩ = none
    cases s.game id <;> rfl
  | legalMoves id =>
    refine .stays rfl rfl rfl le_rfl rfl ?_
    change Reply.submission? ⟨(s.legalMoves id).map .moves, []⟩ = none
    cases s.legalMoves id <;> rfl
  | standings id =>
    refine .stays rfl rfl rfl le_rfl rfl ?_
    change Reply.submission? ⟨(s.standings id).map .standings, []⟩ = none
    cases s.standings id <;> rfl

namespace Outcome
variable {x : Reply}

theorem rules_eq (h : Outcome s c x t) : t.rules = s.rules := by
  cases h with
  | stays rules => exact rules
  | creates | refuses | plays => rfl

theorem supply_eq (h : Outcome s c x t) : t.supply = s.supply := by
  cases h with
  | stays _ supply => exact supply
  | creates | refuses | plays => rfl

theorem made_le (h : Outcome s c x t) : s.made ≤ t.made := by
  cases h with
  | stays _ _ _ made => exact made
  | creates => exact Nat.le_succ _
  | refuses | plays => exact le_rfl

end Outcome
end Session
end GuildCards
