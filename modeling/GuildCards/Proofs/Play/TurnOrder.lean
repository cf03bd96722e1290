import Mathlib
import GuildCards.Proofs.Play.Course
import GuildCards.Proofs.Play.Ending

/-!
The order of turns. The history of a game falls into turns, and the number of a turn tells whose it
is: all its moves are by the player in the seat that the number comes to, going round the table. So
the seat and the number of the turn that is being played can both be read off the history.
-/
namespace GuildCards
open Document

variable {rules : Rulebook String} {shuffle : Shuffler String Int} {s : State String Int}
  {r : Played String Int} {m : Move} {history : List Move} {ids : List String}
  {parts : List (List Move)} {piece : List Move}

structure Turns where
  /-- the turns that have ended -/
  past : List (List Move) := []
  /-- the moves since -/
  now : List Move := []
  /-- whether there has been an `endTurn`, of which the first opens the game -/
  opened : Bool := false

namespace Turns

def pieces (x : Turns) : List (List Move) := x.past ++ [x.now]

/-- Does a move end the turn? The `endTurn` that opens the game does not. -/
def isEndedBy (x : Turns) (m : Move) : Bool :=
  m.kind = .consolidate || (m.kind = .endTurn && x.opened)

def add (x : Turns) (m : Move) : Turns :=
  let opened := x.opened || m.kind = .endTurn
  if x.isEndedBy m then ⟨x.past ++ [x.now ++ [m]], [], opened⟩ else ⟨x.past, x.now ++ [m], opened⟩

def ofHistory (history : List Move) : Turns := history.foldl add {}

theorem ofHistory_concat (history : List Move) (m : Move) :
    ofHistory (history ++ [m]) = (ofHistory history).add m := List.foldl_concat ..

theorem add_opened (x : Turns) (m : Move) :
    (x.add m).opened = (x.opened || decide (m.kind = .endTurn)) := by
  unfold add
  split_ifs <;> rfl

theorem flatten_pieces (history : List Move) : (ofHistory history).pieces.flatten = history := by
  have hadd (x : Turns) (m : Move) : (x.add m).pieces.flatten = x.pieces.flatten ++ [m] := by
    unfold add pieces
    split_ifs <;> simp
  induction history using List.reverseRecOn with
  | nil => rfl
  | append_singleton history m ih => rw [ofHistory_concat, hadd, ih]

end Turns

/-- Going round the table, every turn is one player's: the moves of a turn are all by the player whose
id stands at the place that the number of the turn comes to. -/
def RoundRobin (ids : List String) (pieces : List (List Move)) : Prop :=
  ∀ (k : Nat) (piece : List Move), pieces[k]? = some piece → ∀ m ∈ piece,
    ∃ name, ids[k % ids.length]? = some name ∧ m.player = .text name

namespace RoundRobin

theorem concat (h : RoundRobin ids parts)
    (hpiece : ∀ m ∈ piece, ∃ name, ids[parts.length % ids.length]? = some name ∧
      m.player = .text name) : RoundRobin ids (parts ++ [piece]) := by
  intro k piece' hk
  rcases lt_or_ge k parts.length with hlt | hge
  · rw [List.getElem?_append_left hlt] at hk
    exact h k piece' hk
  · rw [List.getElem?_append_right hge, List.getElem?_singleton] at hk
    split_ifs at hk with hzero
    obtain rfl : k = parts.length := by omega
    exact Option.some.inj hk ▸ hpiece

theorem init (h : RoundRobin ids (parts ++ [piece])) : RoundRobin ids parts := by
  intro k piece' hk
  obtain ⟨hlt, -⟩ := List.getElem?_eq_some_iff.mp hk
  exact h k piece' ((List.getElem?_append_left hlt).trans hk)

theorem last (h : RoundRobin ids (parts ++ [piece])) : ∀ m ∈ piece,
    ∃ name, ids[parts.length % ids.length]? = some name ∧ m.player = .text name :=
  h parts.length piece List.getElem?_concat_length

theorem add {x : Turns} {name : String} (h : RoundRobin ids x.pieces)
    (hname : ids[x.past.length % ids.length]? = some name) (hm : m.player = .text name) :
    RoundRobin ids (x.add m).pieces := by
  have hnow : RoundRobin ids (x.past ++ [x.now ++ [m]]) := by
    refine h.init.concat fun d hd => ?_
    rcases List.mem_append.mp hd with hd | hd
    · exact h.last d hd
    · exact List.mem_singleton.mp hd ▸ ⟨name, hname, hm⟩
  unfold Turns.add Turns.pieces
  split_ifs
  · exact hnow.concat (by simp)
  · exact hnow

end RoundRobin

namespace State

theorem opens_of_setup (hsetup : s.phase = .setup) (h : s.play rules shuffle m = .ok r) :
    m.kind = .endTurn ∧ r.state.phase = .playing ∧ r.state.turn = s.turn := by
  obtain ⟨p, x, hp, hx, rfl⟩ := play_eq_ok.mp h
  have hm : m.kind = .endTurn := hp.started.resolve_left (not_not.mpr hsetup)
  simp only [perform, hm, if_pos hsetup] at hx
  obtain rfl := Except.ok.inj hx
  exact ⟨hm, rfl, rfl⟩

theorem not_setup_of_play (hs : s.Seated) (h : s.play rules shuffle m = .ok r) :
    r.state.phase ≠ .setup := by
  rcases phase_of_play hs h with heq | ⟨-, heq⟩
  · intro hsetup
    have hplaying := (opens_of_setup (heq.symm.trans hsetup) h).2.1
    rw [hplaying] at hsetup
    cases hsetup
  · rw [heq]
    decide

theorem turn_of_play (hs : s.Seated) (h : s.play rules shuffle m = .ok r) :
    if m.kind = .consolidate ∨ m.kind = .endTurn ∧ s.phase ≠ .setup then
      r.state.turn = s.turn + 1 ∧ r.state.seat = (s.seat + 1).fmod s.players.length
    else r.state.turn = s.turn ∧ r.state.seat = s.seat := by
  obtain ⟨p, q, hp, hcourse⟩ := play_course hs h
  cases hcourse.holding with
  | trading seat turn hm opening =>
    rw [if_neg]
    · exact ⟨turn, seat⟩
    · rintro (hk | ⟨hk, hphase⟩)
      · exact hm hk
      · exact hphase (opening hk)
  | owing c seat turn hm =>
    rw [if_neg (by simp [hm])]
    exact ⟨turn, seat⟩
  | passing seat turn hm =>
    rw [if_pos]
    · exact ⟨turn, seat⟩
    · refine hm.symm.imp_right fun hk => ⟨hk, fun hsetup => ?_⟩
      have hsame := (opens_of_setup hsetup h).2.2
      omega

/-- A state whose seat and turn are those that the history tells. -/
structure Ordered (s : State String Int) : Prop where
  unopened : s.phase = .setup → s.history = []
  opened : s.phase ≠ .setup → (Turns.ofHistory s.history).opened = true
  first : ∀ m, s.history.head? = some m → m.kind = .endTurn
  turn : s.turn = (Turns.ofHistory s.history).past.length
  seat : s.seat = s.turn % s.players.length
  moves : RoundRobin (s.players.map (·.id)) (Turns.ofHistory s.history).pieces

namespace Ordered

theorem opened_iff (h : s.Ordered) :
    (Turns.ofHistory s.history).opened = true ↔ s.phase ≠ .setup := by
  refine ⟨fun hopened hsetup => ?_, h.opened⟩
  rw [h.unopened hsetup] at hopened
  cases hopened

theorem setup_iff (h : s.Ordered) : s.phase = .setup ↔ s.history = [] := by
  refine ⟨h.unopened, fun hnil => ?_⟩
  by_contra hne
  have hopened := h.opened hne
  rw [hnil] at hopened
  cases hopened

theorem isEndedBy_iff (h : s.Ordered) (m : Move) :
    (Turns.ofHistory s.history).isEndedBy m = true ↔
      m.kind = .consolidate ∨ m.kind = .endTurn ∧ s.phase ≠ .setup := by
  simp only [Turns.isEndedBy, Bool.or_eq_true, Bool.and_eq_true, decide_eq_true_eq, h.opened_iff]

theorem current_id (h : s.Ordered) {p : Player String Int}
    (hp : atSeat? s.players s.seat = some p) :
    s.players[(Turns.ofHistory s.history).past.length % s.players.length]? = some p := by
  have hseat : s.seat =
      (((Turns.ofHistory s.history).past.length % s.players.length : Nat) : Int) := by
    rw [h.seat, h.turn, Int.natCast_emod]
  rw [atSeat?, hseat, if_pos (Int.natCast_nonneg _), Int.toNat_natCast] at hp
  exact hp

theorem first_play (h : s.Ordered) (hr : s.play rules shuffle m = .ok r) :
    ∀ d, r.state.history.head? = some d → d.kind = .endTurn := by
  intro d hd
  rw [history_of_play hr, List.head?_append] at hd
  cases hhead : s.history.head? with
  | some d' =>
    rw [hhead] at hd
    exact Option.some.inj hd ▸ h.first d' hhead
  | none =>
    rw [hhead] at hd
    obtain rfl : m = d := Option.some.inj hd
    exact (opens_of_setup (h.setup_iff.mpr (List.head?_eq_none_iff.mp hhead)) hr).1

theorem play (h : s.Ordered) (hs : s.Seated) (hr : s.play rules shuffle m = .ok r) :
    r.state.Ordered := by
  obtain ⟨p, q, hp, hcourse⟩ := play_course hs hr
  have hids : r.state.players.map (·.id) = s.players.map (·.id) := by
    rw [hcourse.players, ids_withPlayer]
  have hlen : r.state.players.length = s.players.length := by
    simpa using congrArg List.length hids
  have hhistory : Turns.ofHistory r.state.history = (Turns.ofHistory s.history).add m := by
    rw [history_of_play hr, Turns.ofHistory_concat]
  have hturn := turn_of_play hs hr
  constructor
  · exact fun hsetup => absurd hsetup (not_setup_of_play hs hr)
  · intro _
    rw [hhistory, Turns.add_opened, Bool.or_eq_true, h.opened_iff, decide_eq_true_eq]
    exact or_iff_not_imp_left.mpr fun hsetup => (opens_of_setup (not_not.mp hsetup) hr).1
  · exact h.first_play hr
  · rw [hhistory, Turns.add]
    simp only [h.isEndedBy_iff]
    split_ifs at hturn ⊢
    · rw [hturn.1, h.turn, List.length_append, List.length_singleton, Nat.cast_add, Nat.cast_one]
    · rw [hturn.1, h.turn]
  · rw [hlen]
    split_ifs at hturn
    · rw [hturn.1, hturn.2, Int.fmod_eq_emod_of_nonneg _ (Int.natCast_nonneg _), h.seat,
        Int.emod_add_emod]
    · rw [hturn.1, hturn.2, h.seat]
  · rw [hids, hhistory]
    refine h.moves.add ?_ hp.named
    rw [List.length_map, List.getElem?_map, h.current_id hp.current, Option.map_some]

end Ordered

end State

theorem Reachable.ordered (h : Reachable rules shuffle s) : s.Ordered := by
  induction h with
  | deal h =>
    obtain ⟨-, cards, -, rfl⟩ := State.newGame_eq_ok.mp h
    refine ⟨fun _ => rfl, fun hne => absurd rfl hne, nofun, rfl, (Int.zero_emod _).symm, ?_⟩
    intro k piece hk d hd
    obtain ⟨-, rfl⟩ : k = 0 ∧ [] = piece := by
      simpa [Turns.ofHistory, Turns.pieces, List.getElem?_singleton] using hk
    cases hd
  | @step s h x ih =>
    apply State.after_induction (P := State.Ordered) ih
    · exact fun hr => ih.play h.seated hr
    · intro hphase
      have hopen : s.phase ≠ .setup := by
        rw [hphase]
        decide
      exact ⟨nofun, fun _ => ih.opened hopen, ih.first, ih.turn, ih.seat, ih.moves⟩
    · exact fun _ => ⟨ih.unopened, ih.opened, ih.first, ih.turn, ih.seat, ih.moves⟩

/-- Turn order is recorded faithfully. The seat is the number of the turn, going round the table;
the history, cut after every move that ends a turn, has as many turns that ended as the number says,
and each turn holds moves only of the player in the seat that its number comes to. The history begins
with the move that opens the game. So only the player whose turn it is ever changes the state. -/
theorem turns_in_order (h : Reachable rules shuffle s) (hplayers : s.players ≠ []) :
    let n := s.players.length
    let turns := Turns.ofHistory s.history
    s.seat = s.turn % n ∧ s.turn = turns.past.length ∧
      (∀ (k : Nat) (piece : List Move), turns.pieces[k]? = some piece →
        ∃ p, s.players[k % n]? = some p ∧ ∀ m ∈ piece, m.player = .text p.id) ∧
      turns.pieces.flatten = s.history ∧
      (s.phase = .setup ↔ s.history = []) ∧
      (∀ m, s.history.head? = some m → m.kind = .endTurn) ∧
      ∀ m, s.next rules shuffle m ≠ s →
        ∃ p, s.players[turns.past.length % n]? = some p ∧ m.player = .text p.id := by
  intro n turns
  have ho := h.ordered
  have hpos : 0 < n := List.length_pos_iff.mpr hplayers
  refine ⟨ho.seat, ho.turn, fun k piece hk => ?_, Turns.flatten_pieces _, ho.setup_iff, ho.first,
    fun m hm => ?_⟩
  · refine ⟨_, List.getElem?_eq_getElem (Nat.mod_lt k hpos), fun m hm => ?_⟩
    obtain ⟨name, hname, hplayer⟩ := ho.moves k piece hk m hm
    rw [List.length_map, List.getElem?_map, List.getElem?_eq_getElem (Nat.mod_lt k hpos),
      Option.map_some] at hname
    rw [hplayer, Option.some.inj hname]
  · rcases State.next_eq_or rules shuffle s m with heq | ⟨r, hr, -⟩
    · exact absurd heq hm
    · obtain ⟨p, -, hp, -, -⟩ := State.play_eq_ok.mp hr
      exact ⟨p, ho.current_id hp.current, hp.named⟩

/-- The third turn goes on, and is the first player's again. -/
theorem turns_in_order_sample :
    ∃ s₀ : State String Int,
      newGame sampleRulebook unshuffled "game" 7 ["Ada", "Ben"] = .ok s₀ ∧
        let s := s₀.run sampleRulebook unshuffled (sampleSteps ++
          [.move (.plain .endTurn "player-2"), .move (.plain .consolidate "player-1"),
            .move (.plain .endTurn "player-2"), .move (.onCard .expand "player-1" "royal-red")])
        s.players ≠ [] ∧ (Turns.ofHistory s.history).pieces.map List.length = [6, 1, 1] ∧
          s.seat = s.turn % s.players.length ∧ s.turn = 2 ∧
          ∃ p, s.players[0]? = some p ∧
            ∀ m ∈ (Turns.ofHistory s.history).now, m.player = .text p.id := by
  obtain ⟨s₀, h⟩ : ∃ s₀ : State String Int,
      newGame sampleRulebook unshuffled "game" 7 ["Ada", "Ben"] = .ok s₀ := ⟨_, rfl⟩
  let steps : List Step := sampleSteps ++
    [.move (.plain .endTurn "player-2"), .move (.plain .consolidate "player-1"),
      .move (.plain .endTurn "player-2"), .move (.onCard .expand "player-1" "royal-red")]
  let s := s₀.run sampleRulebook unshuffled steps
  have hrun : s.players.length = 2 ∧
      (Turns.ofHistory s.history).pieces.map List.length = [6, 1, 1] := by
    subst s
    obtain rfl := Except.ok.inj h
    decide +kernel
  obtain ⟨hlen, hpieces⟩ := hrun
  have hplayers : s.players ≠ [] := by
    intro hnil
    simp [hnil] at hlen
  obtain ⟨hseat, hturn, hmoves, -⟩ := turns_in_order (Reachable.run (.deal h) steps) hplayers
  have hpast : (Turns.ofHistory s.history).past.length = 2 := by
    simpa [Turns.pieces] using congrArg List.length hpieces
  have hnow : (Turns.ofHistory s.history).pieces[2]? = some (Turns.ofHistory s.history).now := by
    rw [Turns.pieces, ← hpast, List.getElem?_concat_length]
  refine ⟨s₀, h, hplayers, hpieces, hseat, by rw [hturn, hpast]; rfl, ?_⟩
  obtain ⟨p, hp, hby⟩ := hmoves 2 _ hnow
  rw [hlen] at hp
  exact ⟨p, hp, hby⟩

end GuildCards
