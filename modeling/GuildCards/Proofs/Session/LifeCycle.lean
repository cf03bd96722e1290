import Mathlib
import GuildCards.Proofs.Session.Games

/-!
The life of a game in a session. No game that is being played is stored when it is over; a stored game
goes from setup to play to its end and never back, and once it has ended it stays as it is. A refused
move leaves the session as it was.
-/
namespace GuildCards
open Document

variable {rules : Rulebook String} {g g' h : State String Int} {m : Move} {r : Played String Int}
  {now : Number.Real64} {id : String}

theorem State.get?_note (s : State String Int) (name other : String) (now : Number.Real64) :
    Keyed.get? (s.note name now).notes other =
      if name = other then some (.real now) else Keyed.get? s.notes other := Keyed.get?_put ..

/-- A game as it is stored: a run came to it, and it does not go on when it is over. -/
structure Live (rules : Rulebook String) (g : State String Int) : Prop where
  reachable : Reachable rules Shuffle.seeded g
  goesOn : g.phase = .playing → ¬g.Over rules

namespace Live

theorem deal {seed : Int} {names : List String}
    (h : newGame rules Shuffle.seeded id seed names = .ok g) :
    Live rules ((g.note createdAt now).note updatedAt now) := by
  refine ⟨((Reachable.deal h).step (.stamp createdAt now)).step (.stamp updatedAt now), ?_⟩
  obtain ⟨-, cards, -, rfl⟩ := State.newGame_eq_ok.mp h
  intro hplaying
  cases hplaying

theorem play (h : Live rules g) (hr : g.play rules Shuffle.seeded m = .ok r) :
    Live rules ((r.state.closed rules).note updatedAt now) := by
  refine ⟨?_, ?_⟩
  · have hclosed := (h.reachable.play hr).step .close
    rw [State.after_close] at hclosed
    exact hclosed.step (.stamp updatedAt now)
  · intro hplaying
    change (r.state.closed rules).phase = .playing at hplaying
    change ¬(r.state.closed rules).Over rules
    rcases State.closed_cases rules r.state with ⟨hended, -⟩ | ⟨hsame, hgoesOn⟩
    · rw [hended] at hplaying
      cases hplaying
    · rw [hsame] at hplaying ⊢
      exact hgoesOn hplaying

end Live

structure Becomes (rules : Rulebook String) (g h : State String Int) : Prop where
  live : Live rules h
  stage : g.phase.stage ≤ h.phase.stage
  ended : g.phase = .ended → h = g
  created : Keyed.get? h.notes createdAt = Keyed.get? g.notes createdAt

namespace Becomes

theorem refl (h : Live rules g) : Becomes rules g g := ⟨h, le_rfl, fun _ => rfl, rfl⟩

theorem play (h : Becomes rules g g') (hr : g'.play rules Shuffle.seeded m = .ok r) :
    Becomes rules g ((r.state.closed rules).note updatedAt now) := by
  refine ⟨h.live.play hr, ?_, fun hended => ?_, ?_⟩
  · exact h.stage.trans (State.stage_le_of_play h.live.reachable.seated hr)
  · rw [h.ended hended] at hr
    exact absurd hended (State.not_ended_of_play hr)
  · rw [State.get?_note, if_neg (by decide), State.closed_eq, ← h.created, ← State.notes_of_play hr]

end Becomes

namespace Session
variable {σ : Type} [Store σ String Int] {s : Session σ String}

theorem live_run (hs : s.Fresh) {calls : List Call} (hids : (s.run calls).ids.Nodup)
    (hkeeps : s.Keeps calls) (hg : (s.run calls).Holds id g) :
    id ∈ (s.run calls).ids ∧ Live s.rules g ∧
      ∃ k, Keyed.get? g.notes createdAt = some (.real (s.supply.time k)) := by
  refine hs.held (P := fun _ g => Live s.rules g ∧
    ∃ k, Keyed.get? g.notes createdAt = some (.real (s.supply.time k))) ?creates ?goes hids hkeeps hg
  case creates =>
    intro t names seed n k x g₀ hdealt _ _
    refine ⟨.deal hdealt, k, ?_⟩
    rw [State.get?_note, if_neg (by decide), State.get?_note, if_pos rfl]
  case goes =>
    intro t u c x g g' hrules ⟨hlive, k, hk⟩ hfate
    cases hfate with
    | spared => exact ⟨hlive, k, hk⟩
    | refused => exact ⟨hlive, k, hk⟩
    | @played m r _ hr =>
      rw [hrules] at hr
      have hbecomes : Becomes s.rules g (u.settled r.state) := by
        rw [settled, hrules]
        exact (Becomes.refl hlive).play hr
      exact ⟨hbecomes.live, k, hbecomes.created.trans hk⟩

theorem Outcome.unchanged {t : Session σ String} {c : Call} {x : Reply} {y : Submission String Int}
    {why : Refusal} (h : Outcome s c x t) (hx : x.submission? = some y)
    (hwhy : y.outcome = .error why) : t = s := by
  cases h with
  | stays _ _ _ _ _ submission => cases submission.symm.trans hx
  | creates => cases hx
  | refuses => rfl
  | plays =>
    obtain rfl := Option.some.inj hx
    cases hwhy

/-- The life of the games of a session. A stored game that is being played is not over. From one stored
state of a game to a later one the phase only goes forward, an ended game is the same as before, and the
time of creation is kept, which is a time that the session was given. A submission that is refused
leaves the session, and so its store, unchanged. -/
theorem life_cycle (hs : s.Fresh) (calls more : List Call)
    (hids : (s.run (calls ++ more)).ids.Nodup) (hkeeps : s.Keeps (calls ++ more)) :
    let t := s.run calls
    let u := s.run (calls ++ more)
    (∀ id g, t.Holds id g →
      (g.phase = .playing → g.common ≠ [] ∧
        ∀ p ∈ g.players, p.counters.victoryPoints < s.rules.winningPoints) ∧
      (∃ k, Keyed.get? g.notes createdAt = some (.real (s.supply.time k))) ∧
      ∃ h, u.Holds id h ∧ g.phase.stage ≤ h.phase.stage ∧ (g.phase = .ended → h = g) ∧
        Keyed.get? h.notes createdAt = Keyed.get? g.notes createdAt) ∧
    ∀ id m why g, (t.call (.submit id m)).value = .ok (.submission ⟨.error why, g⟩) →
      (t.call (.submit id m)).session = t := by
  intro t u
  have hsame : s.run (calls ++ more) = t.run more := run_append calls more
  refine ⟨fun id g hg => ?_, fun id m why g hx => ?_⟩
  · rw [hsame] at hids
    obtain ⟨hid, hlive, hcreated⟩ := live_run hs (nodup_ids_run more hids) hkeeps.left hg
    have hrules : t.rules = s.rules := (s.run_same calls).1
    obtain ⟨h, hh, hbecomes⟩ := hg.run (P := Becomes s.rules g) hid (.refl hlive)
      (fun now hP hr => by rw [hrules] at hr ⊢; exact hP.play hr) more hids hkeeps.right
    rw [← hsame] at hh
    exact ⟨fun hplaying => State.not_over (hlive.goesOn hplaying), hcreated, h, hh,
      hbecomes.stage, hbecomes.ended, hbecomes.created⟩
  · have hsubmission : (t.reply (.submit id m)).submission? = some ⟨.error why, g⟩ := by
      rw [Reply.submission?, reply, hx]
    exact (t.outcome (.submit id m)).unchanged hsubmission rfl

/-- A game that has ended is the same after more calls. -/
theorem life_cycle_sample :
    ∃ g, (sampleSession.run (sampleCalls.take 5)).Holds "g" g ∧ g.phase = .ended ∧
      (sampleSession.run sampleCalls).Holds "g" g := by
  have hfound : ((sampleSession.run (sampleCalls.take 5)).store.games.get? "g").map (·.phase) =
      some .ended := by
    decide +kernel
  obtain ⟨g, hg, hphase⟩ := Option.map_eq_some_iff.mp hfound
  have hheld : (sampleSession.run (sampleCalls.take 5)).Holds "g" g := congrArg Except.ok hg
  have hids : (sampleSession.run (sampleCalls.take 5 ++ sampleCalls.drop 5)).ids.Nodup := by
    decide +kernel
  obtain ⟨hlife, -⟩ := life_cycle fresh_sample (sampleCalls.take 5) (sampleCalls.drop 5) hids
    (keeps_sample _)
  obtain ⟨-, -, h, hh, -, hended, -⟩ := hlife "g" g hheld
  exact ⟨g, hheld, hphase, hended hphase ▸ hh⟩

end Session
end GuildCards
