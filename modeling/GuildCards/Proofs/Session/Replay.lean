import Mathlib
import GuildCards.Proofs.Session.Games

/-!
A game is played again from its history. The history of a stored game is what was accepted of the moves
submitted to it; played one after the other from a fresh deal they lead to the stored state, but for
the times noted in it and for its phase, which the check after the last move decides. So nothing but
its own submissions makes a difference to a game.
-/
namespace GuildCards
open Document

variable {rules : Rulebook String} {g g₀ : State String Int} {t : Transcript} {id : String}

namespace State

def submit (rules : Rulebook String) (s : State String Int) (m : Move) : State String Int :=
  (s.next rules Shuffle.seeded m).closed rules

/-- Plays moves one after the other, without ending the game. -/
def replay (rules : Rulebook String) (s : State String Int) (ms : List Move) : State String Int :=
  ms.foldl (next rules Shuffle.seeded) s

theorem replay_concat (ms : List Move) (m : Move) :
    g₀.replay rules (ms ++ [m]) = (g₀.replay rules ms).next rules Shuffle.seeded m :=
  List.foldl_append

theorem submit_notes (notes : Fields) (m : Move) :
    ({ g with notes := notes } : State String Int).submit rules m =
      { g.submit rules m with notes := notes } := by
  rw [submit, next_notes, closed_notes]
  rfl

theorem seed_of_play {m : Move} {r : Played String Int}
    (h : g.play rules Shuffle.seeded m = .ok r) : r.state.seed = g.seed := by
  obtain ⟨p, x, -, hx, rfl⟩ := play_eq_ok.mp h
  exact (perform_stays hx).seed

end State

def Transcript.Creates (t : Transcript) (id : String) (names : List String) (seed : Option Int) :
    Prop :=
  ∃ x g, (Call.create names seed, x) ∈ t ∧ x.value = .ok (.game g) ∧ g.id = id

theorem Transcript.Creates.append {names : List String} {seed : Option Int}
    (h : t.Creates id names seed) (u : Transcript) : (t ++ u).Creates id names seed := by
  obtain ⟨x, g, hx, hvalue, hid⟩ := h
  exact ⟨x, g, List.mem_append_left u hx, hvalue, hid⟩

/-- A game that a transcript accounts for, move by move from a fresh deal. -/
structure Replays (rules : Rulebook String) (g₀ : State String Int) (id : String) (t : Transcript)
    (g : State String Int) : Prop where
  seed : g.seed = g₀.seed
  history : g.history = t.accepted id
  replayed : { g₀.replay rules g.history with phase := g.phase, notes := g.notes } = g
  phase : ((g₀.replay rules g.history).closed rules).phase = g.phase
  own : (t.submitted id).foldl (State.submit rules) g₀ = { g with notes := g₀.notes }
  settled : g.closed rules = g

namespace Replays

theorem deal {seed : Int} {names : List String} {notes : Fields}
    (h : newGame rules Shuffle.seeded id seed names = .ok g₀) (ht : t.judged id = []) :
    Replays rules g₀ id t { g₀ with notes := notes } := by
  have hdeal : g₀.phase = .setup ∧ g₀.history = [] := by
    obtain ⟨-, cards, -, rfl⟩ := State.newGame_eq_ok.mp h
    exact ⟨rfl, rfl⟩
  obtain ⟨hsetup, hhistory⟩ := hdeal
  have hclosed : g₀.closed rules = g₀ := State.closed_of_setup hsetup
  have hreplay : g₀.replay rules g₀.history = g₀ := by
    rw [hhistory]
    rfl
  refine ⟨rfl, ?_, ?_, ?_, ?_, ?_⟩
  · rw [Transcript.accepted, ht]
    exact hhistory
  · change { g₀.replay rules g₀.history with phase := g₀.phase, notes := notes } = _
    rw [hreplay]
  · change ((g₀.replay rules g₀.history).closed rules).phase = g₀.phase
    rw [hreplay, hclosed]
  · rw [Transcript.submitted, ht]
    rfl
  · rw [State.closed_notes, hclosed]

variable {x : Call × Reply} {m : Move}

theorem spared (h : Replays rules g₀ id t g) (hx : Transcript.judged [x] id = []) :
    Replays rules g₀ id (t ++ [x]) g := by
  obtain ⟨hseed, hhistory, hreplayed, hphase, hown, hsettled⟩ := h
  refine ⟨hseed, ?_, hreplayed, hphase, ?_, hsettled⟩
  · rw [Transcript.accepted_append, ← hhistory, Transcript.accepted, hx]
    exact (List.append_nil _).symm
  · rw [Transcript.submitted_append, Transcript.submitted.eq_def [x], hx, List.map_nil,
      List.append_nil]
    exact hown

theorem refused {why : Refusal} (h : Replays rules g₀ id t g)
    (hm : g.play rules Shuffle.seeded m = .error why)
    (hx : Transcript.judged [x] id = [(m, ⟨.error why, g⟩)]) :
    Replays rules g₀ id (t ++ [x]) g := by
  obtain ⟨hseed, hhistory, hreplayed, hphase, hown, hsettled⟩ := h
  have hnext : g.submit rules m = g := by
    rw [State.submit, State.next, hm]
    exact hsettled
  refine ⟨hseed, ?_, hreplayed, hphase, ?_, hsettled⟩
  · rw [Transcript.accepted_append, ← hhistory, Transcript.accepted, hx]
    exact (List.append_nil _).symm
  · rw [Transcript.submitted_append, Transcript.submitted.eq_def [x], hx, List.foldl_append, hown,
      List.map_cons, List.map_nil, List.foldl_cons, List.foldl_nil, State.submit_notes, hnext]

theorem played {r r' : Played String Int} {now : Number.Real64} {g' : State String Int}
    (h : Replays rules g₀ id t g) (hm : g.play rules Shuffle.seeded m = .ok r)
    (hg' : g' = (r.state.closed rules).note updatedAt now)
    (hx : Transcript.judged [x] id = [(m, ⟨.ok r', g'⟩)]) : Replays rules g₀ id (t ++ [x]) g' := by
  obtain ⟨hseed, hhistory, hreplayed, hphase, hown, hsettled⟩ := h
  -- the game was not ended before the move, so it was not over, and its phase is that of the replay
  have hopen : (g₀.replay rules g.history).phase = g.phase := by
    rcases State.closed_cases rules (g₀.replay rules g.history) with ⟨hended, -⟩ | ⟨hsame, -⟩
    · exact absurd (hphase.symm.trans hended) (State.not_ended_of_play hm)
    · rwa [hsame] at hphase
  have hreplay : g₀.replay rules g.history =
      { g with notes := (g₀.replay rules g.history).notes } := by
    calc g₀.replay rules g.history
        = { g₀.replay rules g.history with
            phase := g.phase, notes := (g₀.replay rules g.history).notes } := by rw [← hopen]
      _ = { g with notes := (g₀.replay rules g.history).notes } :=
          congrArg (fun s : State String Int =>
            { s with notes := (g₀.replay rules g.history).notes }) hreplayed
  obtain ⟨notes, hnext⟩ : ∃ notes,
      g₀.replay rules (g.history ++ [m]) = { r.state with notes := notes } := by
    refine ⟨(g₀.replay rules g.history).notes, ?_⟩
    rw [State.replay_concat, hreplay, State.next_notes, State.next_of_play hm]
  have hgrown : g'.history = g.history ++ [m] := by
    rw [hg', ← State.history_of_play hm]
    exact State.closed_history _
  refine ⟨?_, ?_, ?_, ?_, ?_, ?_⟩
  · rw [← hseed, ← State.seed_of_play hm, hg']
    exact State.closed_seed _
  · rw [hgrown, hhistory, Transcript.accepted_append, Transcript.accepted.eq_def [x], hx]
    rfl
  · rw [hgrown, hnext, hg']
    exact congrArg (fun s : State String Int =>
      { s with notes := ((r.state.closed rules).note updatedAt now).notes })
      (State.closed_eq r.state).symm
  · rw [hgrown, hnext, State.closed_notes, hg']
    rfl
  · rw [Transcript.submitted_append, Transcript.submitted.eq_def [x], hx, List.foldl_append, hown,
      List.map_cons, List.map_nil, List.foldl_cons, List.foldl_nil, State.submit_notes,
      State.submit, State.next_of_play hm, hg']
    rfl
  · rw [hg', State.note, State.closed_notes, State.closed_closed]

end Replays

/-- A game that a transcript accounts for from the call that created it. -/
def Told (rules : Rulebook String) (id : String) (t : Transcript) (g : State String Int) : Prop :=
  ∃ names seed n g₀, t.Creates id names seed ∧
    newGame rules Shuffle.seeded id (seed.getD n) names = .ok g₀ ∧ Replays rules g₀ id t g

namespace Session
variable {σ : Type} [Store σ String Int] {s : Session σ String}

theorem told_run (hs : s.Fresh) {calls : List Call} (hids : (s.run calls).ids.Nodup)
    (hkeeps : s.Keeps calls) (hg : (s.run calls).Holds id g) :
    Told s.rules id (s.transcript calls) g := by
  refine (hs.held (P := Told s.rules id) ?creates ?goes hids hkeeps hg).2
  case creates =>
    intro t names seed n k x g₀ hdealt hquiet hx
    obtain ⟨-, cards, -, hg₀⟩ := State.newGame_eq_ok.mp hdealt
    have hid : g₀.id = id := by rw [hg₀]
    exact ⟨names, seed, n, g₀, ⟨x, _, List.mem_append_right _ List.mem_cons_self, hx, hid⟩, hdealt,
      .deal hdealt (by rw [Transcript.judged_append, hquiet]; rfl)⟩
  case goes =>
    intro t u c x g g' hrules ⟨names, seed, n, g₀, hcreates, hdealt, hreplays⟩ hfate
    refine ⟨names, seed, n, g₀, hcreates.append _, hdealt, ?_⟩
    cases hfate with
    | spared hx => exact hreplays.spared hx
    | refused h hx => exact hreplays.refused (hrules ▸ h) hx
    | played h hx => exact hreplays.played (hrules ▸ h) (by rw [← hrules]; rfl) hx

/-- Every stored game is the replay of its history. The history is what was accepted, in order, of the
moves submitted to the game; played from the deal that its creation asked for, it gives the stored
state in every field but the notes and the phase, and the phase is that of the replay once it is
checked for its end. But for the notes, the game is what its own submissions make of its deal. -/
theorem history_replays (hs : s.Fresh) (calls : List Call) (hids : (s.run calls).ids.Nodup)
    (hkeeps : s.Keeps calls) (hg : (s.run calls).Holds id g) :
    let t := s.transcript calls
    ∃ names seed g₀,
      t.Creates id names seed ∧ newGame s.rules Shuffle.seeded id g.seed names = .ok g₀ ∧
      seed.getD g.seed = g.seed ∧ g.history = t.accepted id ∧
      (let u := g.history.foldl (State.next s.rules Shuffle.seeded) g₀
       { u with phase := g.phase, notes := g.notes } = g ∧
         (u.endIfOver s.rules).map (·.phase) = .ok g.phase) ∧
      { g with notes := [] } = (t.submitted id).foldl (State.submit s.rules) g₀ := by
  intro t
  obtain ⟨names, seed, n, g₀, hcreates, hdealt, hreplays⟩ := told_run hs hids hkeeps hg
  obtain ⟨hseed, hnotes⟩ : g₀.seed = seed.getD n ∧ g₀.notes = [] := by
    obtain ⟨-, cards, -, rfl⟩ := State.newGame_eq_ok.mp hdealt
    exact ⟨rfl, rfl⟩
  have hgseed : g.seed = seed.getD n := hreplays.seed.trans hseed
  refine ⟨names, seed, g₀, hcreates, hgseed ▸ hdealt, ?_, hreplays.history,
    ⟨hreplays.replayed, ?_⟩, hnotes ▸ hreplays.own.symm⟩
  · rw [hgseed]
    cases seed <;> rfl
  · rw [State.endIfOver_int]
    exact congrArg Except.ok hreplays.phase

/-- The game has ended by its one accepted move, which the replay by itself does not tell. -/
theorem history_replays_sample :
    let t := sampleSession.transcript sampleCalls
    ∃ g, (sampleSession.run sampleCalls).Holds "g" g ∧ g.phase = .ended ∧
      g.history.map (·.kind) = [.endTurn] ∧ g.history = t.accepted "g" ∧
      ∃ names seed g₀, t.Creates "g" names seed ∧
        newGame smallRulebook Shuffle.seeded "g" g.seed names = .ok g₀ ∧
        { g.history.foldl (State.next smallRulebook Shuffle.seeded) g₀ with
          phase := g.phase, notes := g.notes } = g := by
  have hfound : ((sampleSession.run sampleCalls).store.games.get? "g").map
      (fun g => (g.phase, g.history.map (·.kind))) = some (.ended, [.endTurn]) := by
    decide +kernel
  obtain ⟨g, hg, hgame⟩ := Option.map_eq_some_iff.mp hfound
  obtain ⟨hphase, hkinds⟩ := Prod.mk.inj hgame
  have hheld : (sampleSession.run sampleCalls).Holds "g" g := congrArg Except.ok hg
  have hids : (sampleSession.run sampleCalls).ids.Nodup := by decide +kernel
  obtain ⟨names, seed, g₀, hcreates, hdealt, -, hhistory, ⟨hreplayed, -⟩, -⟩ :=
    history_replays fresh_sample sampleCalls hids (keeps_sample sampleCalls) hheld
  exact ⟨g, hheld, hphase, hkinds, hhistory, names, seed, g₀, hcreates, hdealt, hreplayed⟩

end Session
end GuildCards
