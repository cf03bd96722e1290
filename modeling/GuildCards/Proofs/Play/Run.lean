import Mathlib
import GuildCards.Proofs.Play.Played
import GuildCards.Session

/-!
Runs of a game: from a fresh deal, moves of any kind by anybody, accepted or refused, checks whether
the game is over and stamps of time, in any order. What holds of a fresh deal and outlasts an
accepted move, the end of the game and a stamp holds throughout.
-/
namespace GuildCards
open Document

inductive Step where
  | move (m : Move)
  /-- the check whether the game is over -/
  | close
  | stamp (name : String) (time : Number.Real64)

namespace State

def after (rules : Rulebook String) (shuffle : Shuffler String Int) (s : State String Int) :
    Step → State String Int
  | .move m => s.next rules shuffle m
  | .close =>
    match s.endIfOver rules with
    | .ok t => t
    | .error _ => s
  | .stamp name time => s.note name time

def run (rules : Rulebook String) (shuffle : Shuffler String Int) (s : State String Int)
    (steps : List Step) : State String Int := steps.foldl (after rules shuffle) s

end State

/-- A state that a run from a fresh deal comes to. -/
inductive Reachable (rules : Rulebook String) (shuffle : Shuffler String Int) :
    State String Int → Prop where
  | deal {id : String} {seed : Int} {names : List String} {s : State String Int}
    (h : newGame rules shuffle id seed names = .ok s) : Reachable rules shuffle s
  | step {s : State String Int} (h : Reachable rules shuffle s) (x : Step) :
    Reachable rules shuffle (s.after rules shuffle x)

variable {rules : Rulebook String} {shuffle : Shuffler String Int} {s s₀ : State String Int}

namespace State
variable {p q : Player String Int} {r : Played String Int} {m : Move}

@[simp] theorem run_nil : s.run rules shuffle [] = s := rfl

@[simp] theorem run_cons (x : Step) (xs : List Step) :
    s.run rules shuffle (x :: xs) = (s.after rules shuffle x).run rules shuffle xs := rfl

theorem next_eq_or (rules : Rulebook String) (shuffle : Shuffler String Int) (s : State String Int)
    (m : Move) :
    s.next rules shuffle m = s ∨
      ∃ r, s.play rules shuffle m = .ok r ∧ s.next rules shuffle m = r.state := by
  unfold next
  cases h : s.play rules shuffle m with
  | ok r => exact .inr ⟨r, rfl, rfl⟩
  | error _ => exact .inl rfl

theorem next_of_play (h : s.play rules shuffle m = .ok r) : s.next rules shuffle m = r.state := by
  unfold next
  rw [h]

theorem close_eq_or (rules : Rulebook String) (shuffle : Shuffler String Int)
    (s : State String Int) :
    s.after rules shuffle .close = s ∨
      (s.phase = .playing ∧ s.after rules shuffle .close = { s with phase := .ended }) := by
  unfold after
  simp only []
  cases h : s.endIfOver rules with
  | error _ => exact .inl rfl
  | ok t =>
    unfold endIfOver at h
    obtain ⟨o, -, h⟩ := bind_eq_ok.mp h
    split at h
    · rename_i hp
      exact .inr ⟨hp.1, pure_eq_ok.mp h⟩
    · exact .inl (pure_eq_ok.mp h)

end State

theorem Reachable.run (h : Reachable rules shuffle s) (xs : List Step) :
    Reachable rules shuffle (s.run rules shuffle xs) := by
  induction xs generalizing s with
  | nil => exact h
  | cons x xs ih => exact ih (h.step x)

theorem State.after_induction {P : State String Int → Prop} (h : P s)
    (play : ∀ {m r}, s.play rules shuffle m = .ok r → P r.state)
    (ended : s.phase = .playing → P { s with phase := .ended })
    (noted : ∀ notes, P { s with notes := notes }) (x : Step) : P (s.after rules shuffle x) := by
  cases x with
  | move m =>
    change P (s.next rules shuffle m)
    rcases State.next_eq_or rules shuffle s m with heq | ⟨r, hr, heq⟩
    · exact heq.symm ▸ h
    · exact heq.symm ▸ play hr
  | close =>
    rcases State.close_eq_or rules shuffle s with heq | ⟨hp, heq⟩
    · exact heq.symm ▸ h
    · exact heq.symm ▸ ended hp
  | stamp name time => exact noted _

def sampleText : EffectText :=
  (EffectText.of
    "Gain +2 gold. Discard 1 card -> +1 army or +1 VP. +1 draw or +1 take.").toOption.get
    (by decide +kernel)

/-- Texts that tell the tiers apart. -/
def sampleTiers : Tiered EffectText where
  first := sampleText
  middle :=
    (EffectText.of
      "Gain +3 gold and +1 knowledge. Discard 1 card -> +2 VP. +1 exile or +1 bury.").toOption.get
      (by decide +kernel)
  last :=
    (EffectText.of "Gain +1 army and +1 revive. Pay 1 gold -> +4 VP.").toOption.get
      (by decide +kernel)

def sampleRulebook : Rulebook String where
  id := "sample"
  title := "Sample"
  cards := [Guild.royal, Guild.military].flatMap fun g => Color.all.map fun c =>
    { id := g.name ++ "-" ++ c.name, guild := g, color := c
      power := sampleTiers, bonus := sampleText }
  handSize := 3
  deckSize := 1

def unshuffled : Shuffler String Int := fun _ _ cards => .ok cards

/-- A card is played, its choices are answered and its first conditional is accepted. -/
def sampleSteps : List Step :=
  [.move (.plain .endTurn "player-1"), .move (.onCard .expand "player-1" "royal-blue"),
   .move (.choose "player-1" 1 "+1 draw"), .move (.choose "player-1" 0 "+1 Take"),
   .move (.answer "player-1" true (.text "+1 vp"))]

end GuildCards
