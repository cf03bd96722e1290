import Mathlib
import GuildCards.Proofs.Play.Seats

/-!
The moves that a run makes are those of its steps that are accepted. What holds of no moves and outlasts
each move that is accepted holds of all the moves of a run together with the state that it comes to.
-/
namespace GuildCards

variable {rules : Rulebook String} {shuffle : Shuffler String Int} {s : State String Int}
  {r : Played String Int} {m : Move} {done : List Move}

namespace State

/-- The moves that a step makes: the one that is played, if it is accepted. -/
def makes (rules : Rulebook String) (shuffle : Shuffler String Int) (s : State String Int) :
    Step → List Move
  | .move m => if (s.play rules shuffle m).isOk then [m] else []
  | .close => []
  | .stamp _ _ => []

def made (rules : Rulebook String) (shuffle : Shuffler String Int) (s : State String Int) :
    List Step → List Move
  | [] => []
  | x :: xs => s.makes rules shuffle x ++ (s.after rules shuffle x).made rules shuffle xs

theorem makes_of_play (h : s.play rules shuffle m = .ok r) :
    s.makes rules shuffle (.move m) = [m] := by
  rw [makes, h]
  rfl

theorem makes_of_error {why : Refusal} (h : s.play rules shuffle m = .error why) :
    s.makes rules shuffle (.move m) = [] := by
  rw [makes, h]
  rfl

theorem run_append (xs ys : List Step) :
    s.run rules shuffle (xs ++ ys) = (s.run rules shuffle xs).run rules shuffle ys :=
  List.foldl_append

theorem made_append (xs ys : List Step) :
    s.made rules shuffle (xs ++ ys) =
      s.made rules shuffle xs ++ (s.run rules shuffle xs).made rules shuffle ys := by
  induction xs generalizing s with
  | nil => rfl
  | cons x xs ih => rw [List.cons_append, made, ih, made, List.append_assoc, run_cons]

theorem made_singleton (x : Step) : s.made rules shuffle [x] = s.makes rules shuffle x :=
  List.append_nil _

theorem after_made_induction {P : List Move → State String Int → Prop} (h : P done s)
    (play : ∀ {m r}, s.play rules shuffle m = .ok r → P (done ++ [m]) r.state)
    (ended : P done { s with phase := .ended })
    (noted : ∀ notes, P done { s with notes := notes }) (x : Step) :
    P (done ++ s.makes rules shuffle x) (s.after rules shuffle x) := by
  cases x with
  | move m =>
    change P _ (s.next rules shuffle m)
    cases hr : s.play rules shuffle m with
    | ok r =>
      rw [makes_of_play hr, next_of_play hr]
      exact play hr
    | error why =>
      have hnext : s.next rules shuffle m = s := by
        rw [next, hr]
      rw [makes_of_error hr, hnext, List.append_nil]
      exact h
  | close =>
    rw [makes, List.append_nil]
    rcases close_eq_or rules shuffle s with heq | ⟨-, heq⟩
    · exact heq.symm ▸ h
    · exact heq.symm ▸ ended
  | stamp name time =>
    rw [makes, List.append_nil]
    exact noted _

end State

theorem Reachable.play (h : Reachable rules shuffle s) (hr : s.play rules shuffle m = .ok r) :
    Reachable rules shuffle r.state := by
  rw [← State.next_of_play hr]
  exact h.step (.move m)

/-- What holds of no moves and outlasts each move that is accepted holds of the moves of a run. -/
theorem Reachable.made_induction {P : List Move → State String Int → Prop}
    (hs : Reachable rules shuffle s) (start : P [] s)
    (play : ∀ {done t m r}, Reachable rules shuffle t → P done t →
      t.play rules shuffle m = .ok r → P (done ++ [m]) r.state)
    (ended : ∀ {done t}, P done t → P done { t with phase := .ended })
    (noted : ∀ {done t} notes, P done t → P done { t with notes := notes }) (steps : List Step) :
    P (s.made rules shuffle steps) (s.run rules shuffle steps) := by
  have key (done : List Move) (h : P done s) :
      P (done ++ s.made rules shuffle steps) (s.run rules shuffle steps) := by
    clear start
    induction steps generalizing s done with
    | nil => rwa [State.made, List.append_nil]
    | cons x xs ih =>
      rw [State.made, ← List.append_assoc]
      apply ih (hs.step x)
      exact State.after_made_induction h (fun hr => play hs h hr) (ended h) (fun _ => noted _ h) x
  exact key [] start

end GuildCards
