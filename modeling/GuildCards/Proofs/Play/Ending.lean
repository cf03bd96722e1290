import Mathlib
import GuildCards.Proofs.Play.Deeds
import GuildCards.Proofs.Play.History

/-!
What happens to a game beside its moves. A game that is being played is over once the common deck is
empty or somebody has the points to win, and then ends; phases only go forward, and an ended game
refuses every move. Notes are read by no move and kept by all of them.
-/
namespace GuildCards
open Document Effect

def Phase.stage : Phase → Nat
  | .setup => 0
  | .playing => 1
  | .ended => 2

variable {rules : Rulebook String} {shuffle : Shuffler String Int} {s t : State String Int}
  {p : Player String Int} {r : Played String Int} {m : Move} {notes : Fields}

theorem anyM_ok {α ε : Type} {f : α → Except ε Bool} {g : α → Bool} (h : ∀ a, f a = .ok (g a))
    (as : List α) : as.anyM f = .ok (as.any g) := by
  induction as with
  | nil => rfl
  | cons a as ih =>
    rw [List.anyM, h a, ok_bind, List.any_cons]
    cases g a with
    | true => rfl
    | false => exact ih

namespace State

def Over (rules : Rulebook String) (s : State String Int) : Prop :=
  s.common = [] ∨ ∃ p ∈ s.players, rules.winningPoints ≤ p.counters.victoryPoints

instance : Decidable (s.Over rules) := inferInstanceAs (Decidable (_ ∨ _))

def closed (rules : Rulebook String) (s : State String Int) : State String Int :=
  if s.phase = .playing ∧ s.Over rules then { s with phase := .ended } else s

theorem not_over (h : ¬s.Over rules) :
    s.common ≠ [] ∧ ∀ p ∈ s.players, p.counters.victoryPoints < rules.winningPoints := by
  rw [Over, not_or] at h
  exact ⟨h.1, fun p hp => lt_of_not_ge fun hle => h.2 ⟨p, hp, hle⟩⟩

theorem isOver_playing (h : s.phase = .playing) : s.isOver rules = .ok (decide (s.Over rules)) := by
  unfold isOver
  simp only [h, Amount.atLeast_int, anyM_ok fun _ => rfl, List.isEmpty_iff]
  split_ifs with hcommon
  · simp [Over, hcommon]
  · rw [Except.ok.injEq, Bool.eq_iff_iff]
    simp [Over, hcommon]

theorem endIfOver_int (s : State String Int) : s.endIfOver rules = .ok (s.closed rules) := by
  unfold endIfOver closed
  cases h : s.phase with
  | playing =>
    simp only [isOver_playing h, ok_bind, true_and, decide_eq_true_eq]
    split_ifs <;> rfl
  | setup => simp [isOver, h, ok_bind, pure, Except.pure]
  | ended => simp [isOver, h, ok_bind, pure, Except.pure]

theorem after_close (s : State String Int) :
    s.after rules shuffle .close = s.closed rules := by
  simp only [after, endIfOver_int]

theorem closed_of_setup (h : s.phase = .setup) : s.closed rules = s := by
  simp [closed, h]

/-- A game that is checked ends or stays as it is; it goes on being played only if it is not over. -/
theorem closed_cases (rules : Rulebook String) (s : State String Int) :
    (s.closed rules).phase = .ended ∧ s.closed rules = { s with phase := .ended } ∨
      s.closed rules = s ∧ (s.phase = .playing → ¬s.Over rules) := by
  unfold closed
  split_ifs with h
  · exact .inl ⟨rfl, rfl⟩
  · exact .inr ⟨rfl, fun hp hover => h ⟨hp, hover⟩⟩

theorem closed_eq (s : State String Int) :
    s.closed rules = { s with phase := (s.closed rules).phase } := by
  unfold closed
  split_ifs <;> rfl

@[simp] theorem closed_seed (s : State String Int) : (s.closed rules).seed = s.seed := by
  unfold closed
  split_ifs <;> rfl

@[simp] theorem closed_history (s : State String Int) : (s.closed rules).history = s.history := by
  unfold closed
  split_ifs <;> rfl

@[simp] theorem closed_closed (s : State String Int) :
    (s.closed rules).closed rules = s.closed rules := by
  unfold closed
  split_ifs <;> simp_all

theorem closed_notes (s : State String Int) (notes : Fields) :
    ({ s with notes := notes } : State String Int).closed rules =
      { s.closed rules with notes := notes } := by
  unfold closed
  split_ifs <;> first | rfl | contradiction

theorem perform_notes (h : s.perform rules shuffle p m = .ok r) (notes : Fields) :
    ∃ r', ({ s with notes := notes } : State String Int).perform rules shuffle p m = .ok r' ∧
      r'.state = { r.state with notes := notes } := by
  unfold perform at h ⊢
  cases hk : m.kind <;> rw [hk] at h <;> simp only [] at h ⊢
  case expand =>
    obtain ⟨c, t, hc, rfl⟩ := expand_eq_ok.mp h
    have hc' : ({ s with notes := notes } : State String Int).MayExpand rules p m.card c t :=
      ⟨hc.given, hc.found, hc.owesNothing, hc.answered, hc.fits, hc.tier⟩
    exact ⟨_, expand_eq_ok.mpr ⟨c, t, hc', rfl⟩, rfl⟩
  case consolidate =>
    obtain ⟨cards, q, hcards, hq, rfl⟩ := consolidate_eq_ok.mp h
    exact ⟨_, consolidate_eq_ok.mpr ⟨cards, q, hcards, hq, rfl⟩, rfl⟩
  case endTurn =>
    split at h
    · obtain rfl := Except.ok.inj h
      exact ⟨_, if_pos ‹_›, rfl⟩
    · obtain ⟨q, hq, rfl⟩ := endTurn_eq_ok.mp h
      rw [if_neg ‹_›]
      exact ⟨_, endTurn_eq_ok.mpr ⟨q, hq, rfl⟩, rfl⟩
  case draw =>
    rcases draw_eq_ok.mp h with ⟨hdeck, rfl⟩ | ⟨hdeck, hdiscard, cards, hcards, rfl⟩
    · exact ⟨_, draw_eq_ok.mpr (.inl ⟨hdeck, rfl⟩), rfl⟩
    · exact ⟨_, draw_eq_ok.mpr (.inr ⟨hdeck, hdiscard, cards, hcards, rfl⟩), rfl⟩
  case take =>
    obtain ⟨c, hc, rfl⟩ := take_eq_ok.mp h
    exact ⟨_, take_eq_ok.mpr ⟨c, hc, rfl⟩, rfl⟩
  case discard =>
    obtain ⟨c, hc, rfl⟩ := discard_eq_ok.mp h
    refine ⟨_, discard_eq_ok.mpr ⟨c, hc, rfl⟩, ?_⟩
    unfold settled
    simp only [withPlayer]
    cases s.deferred with
    | none => rfl
    | some d =>
      simp only []
      split_ifs <;> rfl
  case exile =>
    obtain ⟨c, hc, rfl⟩ := exile_eq_ok.mp h
    exact ⟨_, exile_eq_ok.mpr ⟨c, hc, rfl⟩, rfl⟩
  case bury =>
    obtain ⟨c, hc, rfl⟩ := bury_eq_ok.mp h
    exact ⟨_, bury_eq_ok.mpr ⟨c, hc, rfl⟩, rfl⟩
  case revive =>
    obtain ⟨c, hc, rfl⟩ := revive_eq_ok.mp h
    exact ⟨_, revive_eq_ok.mpr ⟨c, hc, rfl⟩, rfl⟩
  case fight =>
    obtain ⟨x, hx, hattack, hid, rfl⟩ := fight_eq_ok.mp h
    exact ⟨_, fight_eq_ok.mpr ⟨x, hx, hattack, hid, rfl⟩, rfl⟩
  case buildOutpost =>
    obtain ⟨x, hx, hbuild, hid, rfl⟩ := buildOutpost_eq_ok.mp h
    exact ⟨_, buildOutpost_eq_ok.mpr ⟨x, hx, hbuild, hid, rfl⟩, rfl⟩
  case placeArmy =>
    obtain ⟨x, harmies, hx, hplace, hid, rfl⟩ := placeArmy_eq_ok.mp h
    exact ⟨_, placeArmy_eq_ok.mpr ⟨x, harmies, hx, hplace, hid, rfl⟩, rfl⟩
  case resolveChoice =>
    obtain ⟨c, name, b, hplace, hc, hname, hb, rfl⟩ := answerChoice_eq_ok.mp h
    exact ⟨_, answerChoice_eq_ok.mpr ⟨c, name, b, hplace, hc, hname, hb, rfl⟩, rfl⟩
  case resolveConditional =>
    obtain ⟨hgiven, h⟩ := need_bind_eq_ok.mp h
    obtain ⟨c, hchoices, hfront, hdeferred, hr⟩ := answerConditional_eq_ok.mp h
    obtain ⟨haccept, rfl⟩ | ⟨haccept, b, hb, hafford, rfl⟩ := hr
    · exact ⟨_, need_bind_eq_ok.mpr ⟨hgiven, answerConditional_eq_ok.mpr
        ⟨c, hchoices, hfront, hdeferred, .inl ⟨haccept, rfl⟩⟩⟩, rfl⟩
    · refine ⟨_, need_bind_eq_ok.mpr ⟨hgiven, answerConditional_eq_ok.mpr
        ⟨c, hchoices, hfront, hdeferred, .inr ⟨haccept, b, hb, hafford, rfl⟩⟩⟩, ?_⟩
      unfold accepted
      cases c.cost.kind <;> rfl

theorem play_notes (h : s.play rules shuffle m = .ok r) (notes : Fields) :
    ∃ r', ({ s with notes := notes } : State String Int).play rules shuffle m = .ok r' ∧
      r'.state = { r.state with notes := notes } := by
  obtain ⟨p, x, hp, hx, rfl⟩ := play_eq_ok.mp h
  obtain ⟨x', hx', hstate⟩ := perform_notes hx notes
  have hp' : ({ s with notes := notes } : State String Int).MayMove m p :=
    ⟨hp.goesOn, hp.started, hp.seated, hp.current, hp.named, hp.credit⟩
  refine ⟨_, play_eq_ok.mpr ⟨p, x', hp', hx', rfl⟩, ?_⟩
  simp only [hstate]

theorem notes_of_play (h : s.play rules shuffle m = .ok r) : r.state.notes = s.notes := by
  obtain ⟨r', hr', hstate⟩ := play_notes h s.notes
  obtain rfl := Except.ok.inj (hr'.symm.trans h)
  rw [hstate]

theorem next_notes (s : State String Int) (m : Move) (notes : Fields) :
    ({ s with notes := notes } : State String Int).next rules shuffle m =
      { s.next rules shuffle m with notes := notes } := by
  cases hr : s.play rules shuffle m with
  | ok r =>
    obtain ⟨r', hr', hstate⟩ := play_notes hr notes
    rw [next_of_play hr, next_of_play hr', hstate]
  | error why =>
    -- a move that is accepted with other notes is accepted with these
    cases hr' : ({ s with notes := notes } : State String Int).play rules shuffle m with
    | error why' => rw [next, hr', next, hr]
    | ok r' =>
      obtain ⟨r, hr₂, -⟩ := play_notes hr' s.notes
      rw [hr] at hr₂
      cases hr₂

theorem not_ended_of_play (h : s.play rules shuffle m = .ok r) : s.phase ≠ .ended := by
  obtain ⟨p, x, hp, -, -⟩ := play_eq_ok.mp h
  exact hp.goesOn

theorem phase_of_play (hs : s.Seated) (h : s.play rules shuffle m = .ok r) :
    r.state.phase = s.phase ∨ s.phase = .setup ∧ r.state.phase = .playing := by
  obtain ⟨p, -, hd⟩ := play_deed hs h
  cases hd with
  | spending _ _ goes => exact .inl goes.phase
  | settling _ _ goes => exact .inl goes.phase
  | expanding _ _ goes => exact .inl goes.phase
  | choosing _ _ goes => exact .inl goes.phase
  | closing _ goes => exact .inl goes.phase
  | deferring _ _ _ goes => exact .inl goes.phase
  | starting _ goes _ hsetup => exact .inr ⟨hsetup, goes.phase⟩
  | passing _ _ _ phase => exact .inl phase

theorem stage_le_of_play (hs : s.Seated) (h : s.play rules shuffle m = .ok r) :
    s.phase.stage ≤ (r.state.closed rules).phase.stage := by
  rcases closed_cases rules r.state with ⟨hended, -⟩ | ⟨heq, -⟩
  · rw [hended]
    cases s.phase <;> decide
  · rw [heq]
    rcases phase_of_play hs h with hsame | ⟨hsetup, hplaying⟩
    · rw [hsame]
    · rw [hsetup, hplaying]
      decide

theorem history_of_play (h : s.play rules shuffle m = .ok r) :
    r.state.history = s.history ++ [m] := by
  obtain ⟨p, x, -, hx, rfl⟩ := play_eq_ok.mp h
  rw [(perform_stays hx).history]

end State
end GuildCards
