import Mathlib
import GuildCards.Proofs.Effect.Amounts
import GuildCards.Proofs.Play.Deeds
import GuildCards.Proofs.Play.Legality

/-!
Why a move is refused. In a state that a run comes to, a move whose fields are of the right kinds is
refused for a cause that has a code of its own, and never because something in the game fails on the
way: a player has the turn, a pile has room for the card that it admits, every cost names what it
takes, and every shuffle comes about whose number can be written.
-/
namespace GuildCards
open Document Effect

def causeCodes : List String :=
  ["WRONG_PHASE", "WRONG_PLAYER", "NO_CREDITS", "CARD_NOT_IN_HAND", "CARD_NOT_IN_MARKET",
    "CARD_NOT_IN_DISCARD", "DISCARD_PENDING", "AWAITING_INPUT", "COLOR_RESTRICTION", "DECK_EMPTY",
    "NO_ARMIES", "UNKNOWN_SPOT", "ILLEGAL_PLACEMENT", "NO_PENDING_INTENT", "INVALID_CHOICE",
    "CHOICE_FIRST", "COST_UNPAYABLE"]

namespace Refusal
variable {why : Refusal}

/-- Does a refusal stand for something that went wrong? -/
def fails : Refusal → Bool
  | failed _ | broken _ => true
  | _ => false

/-- A refusal with a code of its own, whose message can be written. -/
structure IsCause (why : Refusal) : Prop where
  code : why.code ∈ causeCodes
  shown : ∀ v ∈ why.shown, v.isWritable = true

theorem IsCause.told (h : why.IsCause) : why.told.IsCause := by
  rw [Refusal.told, if_pos (areWritable_iff.mpr h.shown)]
  exact h

end Refusal

section ForCause
variable {α β : Type} {x : Except Refusal α} {f : α → Except Refusal β} {why : Refusal}

def ForCause (x : Except Refusal α) : Prop := ∀ why, x = .error why → why.IsCause

theorem ForCause.bind (hx : ForCause x) (hf : ∀ a, x = .ok a → ForCause (f a)) :
    ForCause (x >>= f) := by
  intro why h
  cases hx' : x with
  | ok a =>
    rw [hx', ok_bind] at h
    exact hf a hx' why h
  | error e =>
    rw [hx'] at h
    have he : (Except.error e : Except Refusal β) = .error why := h
    exact Except.error.inj he ▸ hx e hx'

end ForCause

variable {rules : Rulebook String} {shuffle : Shuffler String Int} {s : State String Int}
  {p : Player String Int} {r : Played String Int} {m : Move} {card spot choice : Value}

def TextOrNull (v : Value) : Prop := v = .null ∨ ∃ s, v = .text s

theorem TextOrNull.isWritable {v : Value} (h : TextOrNull v) : v.isWritable = true := by
  obtain rfl | ⟨s, rfl⟩ := h <;> rfl

theorem TextOrNull.choiceText {v : Value} (h : TextOrNull v) : ∃ name, choiceText v = .ok name := by
  obtain rfl | ⟨s, rfl⟩ := h <;> exact ⟨_, rfl⟩

namespace State

/-- Why a card is not played. The pile that admits it has room, so its place there has a tier. -/
theorem expand_refused {why : Refusal} (hs : s.Seated) (hp : p ∈ s.players)
    (h : s.expand rules p card = .error why) :
    why = (Refusal.notInHand card).told ∨ why = .owesDiscards ∨ why = .mustAnswer ∨
      ∃ g c, why = .colorHeld g c := by
  unfold expand at h
  simp only [Amount.isPositive_int, lift_ok, ok_bind] at h
  rcases need_bind_eq_error.mp h with ⟨-, hwhy⟩ | ⟨-, h⟩
  · exact .inl hwhy
  rcases needSome_bind_eq_error.mp h with ⟨-, hwhy⟩ | ⟨c, hc, h⟩
  · exact .inl hwhy
  rcases need_bind_eq_error.mp h with ⟨-, hwhy⟩ | ⟨-, h⟩
  · exact .inr (.inl hwhy)
  rcases need_bind_eq_error.mp h with ⟨-, hwhy⟩ | ⟨-, h⟩
  · exact .inr (.inr (.inl hwhy))
  rcases need_bind_eq_error.mp h with ⟨-, hwhy⟩ | ⟨hfits, h⟩
  · exact .inr (.inr (.inr ⟨_, _, hwhy⟩))
  -- from here on nothing is refused
  obtain ⟨t, ht⟩ := exists_tier (room_of_canPlayCard hs hp hc hfits)
  rw [List.length_append, List.length_singleton, needSome_eq_ok.mpr ht, ok_bind,
    Card.planAt_int ht, lift_ok, ok_bind, Player.gainAll_int, lift_ok, ok_bind] at h
  cases h

end State

end GuildCards
