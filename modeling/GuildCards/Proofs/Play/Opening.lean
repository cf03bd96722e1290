import Mathlib
import GuildCards.Proofs.Cards.Dealing
import GuildCards.Proofs.Play.Ending

/-!
The opening of a game: the first player ends the turn of the setup, and play begins. It goes on beyond a
check of the game just when the deal has left cards in the common deck. A check of the rulebook does not
see to that: it lets pass a full table that takes all fifty cards.
-/
namespace GuildCards
open Document

variable {r : Rulebook String} {report : Report} {shuffle : Shuffler String Int}
  {s : State String Int} {p : Player String Int} {m : Move} {names : List String} {room : Nat}

def Move.Opens (m : Move) : Prop := m.kind = .endTurn ∧ m.player = .text "player-1"

namespace State

/-- In the setup the end of the current player's turn is accepted. The common deck is left alone, and so
are everybody's counters. -/
theorem exists_started (shuffle : Shuffler String Int) (hphase : s.phase = .setup) (hp : atSeat? s.players s.seat = some p)
    (hkind : m.kind = .endTurn) (hplayer : m.player = .text p.id) :
    ∃ y, s.play r shuffle m = .ok y ∧ y.state.phase = .playing ∧ y.state.common = s.common ∧
      ∀ q ∈ y.state.players, ∃ o ∈ s.players, q.counters = o.counters := by
  have hmem : p ∈ s.players := mem_of_atSeat? hp
  have hmay : s.MayMove m p :=
    ⟨by simp [hphase], .inr hkind, List.ne_nil_of_mem hmem, hp, hplayer,
      Player.ready_of_free (by rw [hkind]; rfl)⟩
  have hstart : s.perform r shuffle p m = .ok (s.start r p) := by
    simp only [perform, hkind, hphase, if_true]
  refine ⟨_, play_eq_ok.mpr ⟨p, _, hmay, hstart, rfl⟩, rfl, rfl, fun q hq => ?_⟩
  rcases mem_withPlayer hq with rfl | ⟨hq, -⟩
  · exact ⟨p, hmem, rfl⟩
  · exact ⟨q, hq, rfl⟩

theorem closed_phase (hphase : s.phase = .playing)
    (hpoints : ∀ p ∈ s.players, p.counters.victoryPoints < r.winningPoints) :
    (s.closed r).phase = if s.common = [] then .ended else .playing := by
  have hover : s.Over r ↔ s.common = [] :=
    or_iff_left fun ⟨p, hp, hwon⟩ => absurd (hpoints p hp) (not_lt.mpr hwon)
  unfold closed
  simp only [hphase, hover, true_and]
  split_ifs
  · rfl
  · exact hphase

theorem exists_first {id : String} {seed : Int} (hnames : names ≠ [])
    (hgame : newGame r shuffle id seed names = .ok s) :
    s.phase = .setup ∧ ∃ p, atSeat? s.players s.seat = some p ∧ p.id = "player-1" := by
  obtain ⟨-, cards, -, rfl⟩ := newGame_eq_ok.mp hgame
  obtain ⟨name, rest, rfl⟩ := List.exists_cons_of_ne_nil hnames
  exact ⟨rfl, _, rfl, rfl⟩

/-- A dealt game is opened by the first player. If it takes points to win, it is over by then just when
the common deck was left empty. -/
theorem exists_opened {id : String} {seed : Int} (hpoints : 1 ≤ r.winningPoints) (hnames : names ≠ [])
    (hgame : newGame r shuffle id seed names = .ok s) (hm : m.Opens) :
    ∃ y t, s.play r shuffle m = .ok y ∧ y.state.endIfOver r = .ok t ∧
      t.phase = if s.common = [] then .ended else .playing := by
  obtain ⟨hphase, p, hp, hid⟩ := exists_first hnames hgame
  obtain ⟨y, hy, hplaying, hcommon, hcounters⟩ :=
    exists_started (r := r) shuffle hphase hp hm.1 (hid ▸ hm.2)
  refine ⟨y, _, hy, endIfOver_int _, ?_⟩
  rw [closed_phase hplaying, hcommon]
  intro q hq
  obtain ⟨o, ho, hsame⟩ := hcounters q hq
  obtain ⟨-, cards, -, rfl⟩ := newGame_eq_ok.mp hgame
  have hnone : o.counters.victoryPoints = 0 := by
    rw [(deal_players o ho).counters]
    rfl
  rw [hsame, hnone]
  exact hpoints

end State

theorem CompleteDeal.common_eq_nil_iff {deck : List (Card String)}
    (h : CompleteDeal r names deck s) :
    s.common = [] ↔ names.length * (r.handSize + r.deckSize) = 50 := by
  have := h.left
  rw [← List.length_eq_zero_iff]
  omega

/-- A rulebook that passes its check, with points to win, gives each table that it admits a game that
the first player can open. A check of the game then leaves it in play if the table has not taken all
fifty cards, and ends it if the table has. A seed too long to be written deals no game. -/
theorem in_play_unless_dealt_out (hcheck : r.check room = .ok report) (hvalid : report.valid = true)
    (hcards : r.cards ≠ []) (hdeck : 0 ≤ r.deckSize) (hpoints : 1 ≤ r.winningPoints)
    (hmin : r.minPlayers ≤ names.length) (hmax : names.length ≤ r.maxPlayers) (id : String)
    (seed : Int) :
    (Value.int seed).isWritable = true ∧
        (names.length * (r.handSize + r.deckSize) ≤ 50 ∧
          ∃ s, newGame r Shuffle.seeded id seed names = .ok s ∧
            ∀ m : Move, m.Opens → ∃ y t, s.play r Shuffle.seeded m = .ok y ∧
              y.state.endIfOver r = .ok t ∧
              (t.phase = .playing ↔ names.length * (r.handSize + r.deckSize) < 50) ∧
              (t.phase = .ended ↔ names.length * (r.handSize + r.deckSize) = 50)) ∨
      (Value.int seed).isWritable = false ∧
        newGame r Shuffle.seeded id seed names = .error .tooLongToWrite := by
  have hsound := (Rulebook.valid_iff_sound hcheck).mp hvalid
  rcases newGame_seeded id seed (seats_of_between hmin hmax) with
    ⟨hseed, deck, s, hshuffled, hperm, hgame⟩ | hunwritable
  · have hdeal := completeDeal_newGame hsound hcards hdeck hmax hshuffled hperm hgame
    have henough := (hsound.enough hcards hdeck hmax).2
    have hnames : names ≠ [] := by
      rintro rfl
      have := hsound.players.1
      rw [List.length_nil] at hmin
      omega
    refine .inl ⟨hseed, henough, s, hgame, fun m hm => ?_⟩
    obtain ⟨y, t, hy, ht, hphase⟩ := State.exists_opened hpoints hnames hgame hm
    refine ⟨y, t, hy, ht, ?_⟩
    split_ifs at hphase with hall <;> rw [hdeal.common_eq_nil_iff] at hall
    · exact ⟨by simp [hphase, hall], iff_of_true hphase hall⟩
    · exact ⟨iff_of_true hphase (by omega), by simp [hphase, hall]⟩
  · exact .inr hunwritable

/-- Two players go on: twenty cards are theirs. -/
theorem in_play_unless_dealt_out_two :
    let r := pairedTable 4
    let names := ["Ada", "Ben"]
    ∃ report, r.check ampleRoom = .ok report ∧ report.valid = true ∧ r.cards ≠ [] ∧ 0 ≤ r.deckSize ∧
      1 ≤ r.winningPoints ∧ r.minPlayers ≤ names.length ∧ names.length ≤ r.maxPlayers ∧
        ∃ s y t, newGame r Shuffle.seeded "game" (7 : Int) names = .ok s ∧
          s.play r Shuffle.seeded (.plain .endTurn "player-1") = .ok y ∧
          y.state.endIfOver r = .ok t ∧ t.phase = .playing := by
  intro r names
  obtain ⟨report, hcheck, hvalid⟩ := exists_check_pairedTable 4 (by decide)
  have hcards : r.cards ≠ [] := List.cons_ne_nil _ _
  have hmin : r.minPlayers ≤ names.length := by decide
  have hmax : names.length ≤ r.maxPlayers := by decide
  refine ⟨report, hcheck, hvalid, hcards, by decide, by decide, hmin, hmax, ?_⟩
  rcases in_play_unless_dealt_out hcheck hvalid hcards (by decide) (by decide) hmin hmax "game" 7 with ⟨-, -, s, hgame, hopen⟩ | ⟨hseed, -⟩
  · obtain ⟨y, t, hy, ht, hgoesOn, -⟩ := hopen (.plain .endTurn "player-1") ⟨rfl, rfl⟩
    exact ⟨s, y, t, hgame, hy, ht, hgoesOn.mpr (by decide)⟩
  · exact absurd hseed (by decide +kernel)

/-- Five players with hands and decks of five take all cards, as the check of the rulebook lets them, and
their game is over as soon as it is opened. -/
theorem over_when_opened :
    let r := pairedTable 5
    let names := ["Ada", "Ben", "Cleo", "Dan", "Eve"]
    ∃ report, r.check ampleRoom = .ok report ∧ report.valid = true ∧ r.cards ≠ [] ∧ 0 ≤ r.deckSize ∧
      1 ≤ r.winningPoints ∧ r.minPlayers ≤ names.length ∧ names.length ≤ r.maxPlayers ∧
        ∃ s y t, newGame r Shuffle.seeded "game" (42 : Int) names = .ok s ∧
          s.play r Shuffle.seeded (.plain .endTurn "player-1") = .ok y ∧
          y.state.endIfOver r = .ok t ∧ t.phase = .ended := by
  intro r names
  obtain ⟨report, hcheck, hvalid⟩ := exists_check_pairedTable 5 (by decide)
  have hcards : r.cards ≠ [] := List.cons_ne_nil _ _
  have hsound := (Rulebook.valid_iff_sound hcheck).mp hvalid
  have hmin : r.minPlayers ≤ names.length := by decide
  have hmax : names.length ≤ r.maxPlayers := by decide
  rcases newGame_seeded "game" 42 (seats_of_between hmin hmax) with
    ⟨-, deck, s, hshuffled, hperm, hgame⟩ | ⟨hseed, -⟩
  · have hdeal := completeDeal_newGame hsound hcards (by decide) hmax hshuffled hperm hgame
    obtain ⟨y, t, hy, ht, hphase⟩ := State.exists_opened (by decide) (List.cons_ne_nil _ _) hgame
      (m := .plain .endTurn "player-1") ⟨rfl, rfl⟩
    rw [if_pos (hdeal.common_eq_nil_iff.mpr (by decide))] at hphase
    exact ⟨report, hcheck, hvalid, hcards, by decide, by decide, hmin, hmax, s, y, t, hgame, hy, ht,
      hphase⟩
  · exact absurd hseed (by decide +kernel)

end GuildCards
