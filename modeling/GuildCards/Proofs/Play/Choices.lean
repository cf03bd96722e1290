import Mathlib
import GuildCards.Proofs.Cards.Shuffling
import GuildCards.Proofs.Play.Policy
import GuildCards.Proofs.Play.TurnOrder

/-!
Open choices may be answered in any order. An answer takes its own choice out of the queue and adds
what its option grants, and neither depends on the choices beside it: each answer is accepted when
its turn comes, and since amounts are added up it does not matter which comes first.
-/
namespace GuildCards
open Document Effect

variable {rules : Rulebook String} {shuffle : Shuffler String Int} {s t : State String Int}
  {p : Player String Int} {r : Played String Int} {m : Move} {ms : List Move} {ds es : List Delta}

/-! ### Grants in any order -/

theorem amountOf_perm (h : ds.Perm es) (x : Resource) : amountOf x ds = amountOf x es :=
  (h.map _).sum_eq

namespace Player

theorem grantedAll_congr (p : Player String Int)
    (h : ∀ x, amountOf x ds = amountOf x es) : p.grantedAll ds = p.grantedAll es := by
  have holds (x : Resource) : (p.grantedAll ds).holds x = (p.grantedAll es).holds x := by
    rw [holds_grantedAll, holds_grantedAll, h x]
  have hcounters : (p.grantedAll ds).counters = (p.grantedAll es).counters :=
    Counters.ext_get fun c => holds (.counter c)
  have harmies : (p.grantedAll ds).armies = (p.grantedAll es).armies := holds .army
  rw [p.grantedAll_eq ds, p.grantedAll_eq es, hcounters, harmies]

theorem grantedAll_perm (p : Player String Int) (h : ds.Perm es) :
    p.grantedAll ds = p.grantedAll es := p.grantedAll_congr (amountOf_perm h)

theorem grantedAll_append (p : Player String Int) (ds es : List Delta) :
    p.grantedAll (ds ++ es) = (p.grantedAll ds).grantedAll es := List.foldl_append

end Player

/-! ### Moves one after the other -/

namespace State

def playOut (rules : Rulebook String) (shuffle : Shuffler String Int) (s : State String Int)
    (ms : List Move) : Except Refusal (State String Int) :=
  (s.playAll rules shuffle ms).map fun rs => (rs.map (·.state)).getLastD s

theorem playOut_cons (s : State String Int) (m : Move) (ms : List Move) :
    s.playOut rules shuffle (m :: ms) =
      (s.play rules shuffle m >>= fun r => r.state.playOut rules shuffle ms) := by
  unfold playOut
  rw [playAll]
  cases s.play rules shuffle m with
  | error why => rfl
  | ok r =>
    rw [ok_bind, ok_bind]
    cases r.state.playAll rules shuffle ms with
    | error why => rfl
    | ok rs =>
      change Except.ok (((r :: rs).map (·.state)).getLastD s) = _
      rw [List.map_cons, List.getLastD_cons]
      rfl

theorem playOut_of_play (h : s.play rules shuffle m = .ok r) (ms : List Move) :
    s.playOut rules shuffle (m :: ms) = r.state.playOut rules shuffle ms := by
  rw [playOut_cons, h, ok_bind]

theorem playOut_cons_eq_ok : s.playOut rules shuffle (m :: ms) = .ok t ↔
    ∃ r, s.play rules shuffle m = .ok r ∧ r.state.playOut rules shuffle ms = .ok t := by
  rw [playOut_cons, bind_eq_ok]

theorem playOut_append (h : s.playOut rules shuffle ms = .ok t) (more : List Move) :
    s.playOut rules shuffle (ms ++ more) = t.playOut rules shuffle more := by
  induction ms generalizing s with
  | nil =>
    obtain rfl := Except.ok.inj h
    rfl
  | cons m ms ih =>
    obtain ⟨r, hr, h⟩ := playOut_cons_eq_ok.mp h
    rw [List.cons_append, playOut_of_play hr, ih h]

theorem playing_of_ne (hsetup : s.phase ≠ .setup) (hended : s.phase ≠ .ended) :
    s.phase = .playing := by
  cases h : s.phase with
  | setup => exact absurd h hsetup
  | playing => rfl
  | ended => exact absurd h hended

theorem MayMove.playing (h : s.MayMove m p) (hm : m.kind ≠ .endTurn) : s.phase = .playing :=
  playing_of_ne (h.started.resolve_right hm) h.goesOn

theorem mayMove_of_free (hphase : s.phase = .playing) (hp : atSeat? s.players s.seat = some p)
    (hname : m.player = .text p.id) (hfree : m.kind.credit? = none) : s.MayMove m p where
  goesOn := by simp [hphase]
  started := .inl (by simp [hphase])
  seated := List.ne_nil_of_mem (mem_of_atSeat? hp)
  current := hp
  named := hname
  credit := Player.ready_of_free hfree

theorem play_of_ended (h : s.phase = .ended) : s.play rules shuffle m = .error .gameOver := by
  have hover : ¬s.phase ≠ .ended := not_not.mpr h
  exact bind_eq_error.mpr (.inl (need_bind_eq_error.mpr (.inl ⟨hover, rfl⟩)))

end State

/-! ### Answers one after the other -/

/-- What an answer to a choice grants: the deltas of the first option that it names. -/
def Effect.Choice.deltasOf (c : Choice) (name : String) : List Delta :=
  ((c.find? name).map (·.deltas)).getD []

section Answers
variable {ι : Type} [DecidableEq ι] {choices : ι → Choice} {pick : ι → Benefit} {id : String}
  {queue order : List ι}

/-- Answers to the choices of a queue in some order, each with the place that its choice has when all
before it are answered. -/
def answersTo (id : String) (pick : ι → Benefit) (queue : List ι) : List ι → List Move
  | [] => []
  | i :: order => .choose id (queue.idxOf i) (pick i).text :: answersTo id pick (queue.erase i) order

/-- The same move without the place of the choice that it answers. -/
def Move.unplaced (m : Move) : Move := { m with intent := none }

theorem unplaced_answersTo (id : String) (pick : ι → Benefit) (queue order : List ι) :
    (answersTo id pick queue order).map Move.unplaced =
      order.map fun i => (Move.choose id 0 (pick i).text).unplaced := by
  induction order generalizing queue with
  | nil => rfl
  | cons i order ih => exact congrArg _ (ih (queue.erase i))

theorem getElem?_idxOf {i : ι} (h : i ∈ queue) :
    (queue.map choices)[queue.idxOf i]? = some (choices i) := by
  have hlt : queue.idxOf i < queue.length := List.idxOf_lt_length_iff.mpr h
  rw [List.getElem?_map, List.getElem?_eq_getElem hlt, List.getElem_idxOf]
  rfl

theorem eraseIdx_idxOf (choices : ι → Choice) (queue : List ι) (i : ι) :
    (queue.map choices).eraseIdx (queue.idxOf i) = (queue.erase i).map choices := by
  rw [List.eraseIdx_map, ← List.erase_eq_eraseIdx_of_idxOf rfl]

namespace State

def chosen (s : State String Int) (p : Player String Int) (place : Nat) (c : Choice)
    (name : String) : State String Int :=
  { s.withPlayer (p.grantedAll (c.deltasOf name)) with
    choices := s.choices.eraseIdx place
    history := s.history ++ [.choose p.id place name] }

theorem play_choose {place : Nat} {c : Choice} {b : Benefit} (hphase : s.phase = .playing)
    (hp : atSeat? s.players s.seat = some p) (hc : s.choices[place]? = some c)
    (hb : b ∈ c.options) :
    ∃ r, s.play rules shuffle (.choose p.id place b.text) = .ok r ∧
      r.state = s.chosen p place c b.text := by
  obtain ⟨d, hd⟩ := exists_find? hb rfl
  have hdeltas : c.deltasOf b.text = d.deltas := by
    unfold Choice.deltasOf Choice.find?
    rw [hd]
    rfl
  have hmay : s.MayMove (.choose p.id place b.text) p := mayMove_of_free hphase hp rfl rfl
  have hanswer : s.answerChoice p place (.text b.text) = .ok _ :=
    answerChoice_eq_ok.mpr
      ⟨c, b.text, d, Int.natCast_nonneg place, hc, choiceText_eq_ok.mpr (.inl rfl), hd, rfl⟩
  refine ⟨_, play_eq_ok.mpr ⟨p, _, hmay, hanswer, rfl⟩, ?_⟩
  rw [chosen, hdeltas]
  rfl

theorem chosen_current {place : Nat} {c : Choice} {name : String} (hs : s.Seated)
    (hp : atSeat? s.players s.seat = some p) :
    atSeat? (s.chosen p place c name).players (s.chosen p place c name).seat =
      some (p.grantedAll (c.deltasOf name)) :=
  Goes.current hs hp ⟨rfl, rfl, rfl, Player.grantedAll_id ..⟩

theorem chosen_withPlayer {place : Nat} {c : Choice} {name : String} {q : Player String Int}
    (hq : q.id = p.id) :
    (s.chosen p place c name).withPlayer q = { s.withPlayer q with
      choices := s.choices.eraseIdx place
      history := s.history ++ [.choose p.id place name] } := by
  have hsame : (s.withPlayer (p.grantedAll (c.deltasOf name))).withPlayer q = s.withPlayer q :=
    withPlayer_withPlayer s (hq.trans (Player.grantedAll_id ..).symm)
  rw [← hsame]
  rfl

/-- Some answers in an order of their own: what they grant is granted, and what is left of the queue
are the choices that have not been answered. -/
theorem playOut_answersTo (hs : s.Seated) (hphase : order ≠ [] → s.phase = .playing)
    (hp : atSeat? s.players s.seat = some p) (hchoices : s.choices = queue.map choices)
    (hpick : ∀ i ∈ queue, pick i ∈ (choices i).options) (horder : order.Nodup)
    (hsub : order ⊆ queue) :
    s.playOut rules shuffle (answersTo p.id pick queue order) = .ok {
      s.withPlayer (p.grantedAll (order.flatMap fun i => (choices i).deltasOf (pick i).text)) with
        choices := (queue.diff order).map choices
        history := s.history ++ answersTo p.id pick queue order } := by
  induction order generalizing s p queue with
  | nil =>
    have hsame : s.withPlayer (p.grantedAll []) = s := hs.withPlayer_self (hs.mem hp)
    rw [List.flatMap_nil, hsame, answersTo, List.append_nil, List.diff_nil, ← hchoices]
    rfl
  | cons i order ih =>
    obtain ⟨hi, horder⟩ := List.nodup_cons.mp horder
    obtain ⟨hmem, hsub⟩ := List.cons_subset.mp hsub
    have hplaying : s.phase = .playing := hphase (List.cons_ne_nil i order)
    have hfound : s.choices[queue.idxOf i]? = some (choices i) := hchoices ▸ getElem?_idxOf hmem
    obtain ⟨r, hplay, hr⟩ : ∃ r, s.play rules shuffle _ = .ok r ∧ r.state = _ :=
      play_choose hplaying hp hfound (hpick i hmem)
    let q := p.grantedAll ((choices i).deltasOf (pick i).text)
    have hid : q.id = p.id := Player.grantedAll_id ..
    have hcurrent : atSeat? r.state.players r.state.seat = some q := hr ▸ chosen_current hs hp
    have hleft : r.state.choices = (queue.erase i).map choices := by
      rw [hr, chosen, hchoices, eraseIdx_idxOf]
    have hpick' : ∀ j ∈ queue.erase i, pick j ∈ (choices j).options :=
      fun j hj => hpick j (List.mem_of_mem_erase hj)
    have hsub' : order ⊆ queue.erase i := by
      intro j hj
      have hne : j ≠ i := fun hji => hi (hji ▸ hj)
      exact (List.mem_erase_of_ne hne).mpr (hsub hj)
    have hrest := ih (hs.play hplay) (fun _ => hr ▸ hplaying) hcurrent hleft hpick' horder hsub'
    rw [answersTo, playOut_of_play hplay, ← hid, hrest, hr,
      chosen_withPlayer ((Player.grantedAll_id ..).trans hid), List.flatMap_cons,
      Player.grantedAll_append, List.diff_cons, hid,
      List.append_cons s.history _ (answersTo ..)]
    rfl

end State
end Answers

/-- Questions are asked by the cards that are played, so somebody is there and the game is open. -/
theorem Reachable.asked (h : Reachable rules shuffle s) :
    s.choices ≠ [] → s.phase ≠ .setup ∧ s.players ≠ [] := by
  induction h with
  | deal h =>
    obtain ⟨-, cards, -, rfl⟩ := State.newGame_eq_ok.mp h
    exact fun hne => absurd rfl hne
  | step h x ih =>
    refine State.after_induction (P := fun t =>
      t.choices ≠ [] → t.phase ≠ .setup ∧ t.players ≠ []) ih ?_ ?_ (fun _ => ih) x
    · intro m r hr _
      refine ⟨State.not_setup_of_play h.seated hr, ?_⟩
      obtain ⟨p, x, hp, hx, rfl⟩ := State.play_eq_ok.mp hr
      have hids := (State.perform_stays hx).ids
      intro hnone
      rw [hnone, List.map_nil, eq_comm, List.map_eq_nil_iff] at hids
      exact hp.seated hids
    · exact fun _ hne => ⟨Phase.noConfusion, (ih hne).2⟩

/-- While the game goes on, open choices may be answered in any order by the player whose turn it is,
each with the place that it has by then. Every answer is accepted and takes its own choice out of the
queue, the others in their order; and once all are answered, only the history tells in which order,
where the answers are the same but for their order and their places. -/
theorem choices_in_any_order (h : Reachable rules shuffle s) (hgoes : s.phase ≠ .ended) :
    (s.choices ≠ [] → ∃ p, s.current = .ok p) ∧
    ∀ p, s.current = .ok p → ∀ pick : Fin s.choices.length → Benefit,
      (∀ i, pick i ∈ (s.choices.get i).options) →
      let places := List.finRange s.choices.length
      let answers := answersTo p.id pick places
      (∀ done rest, (done ++ rest).Perm places → ∃ players,
        s.playOut rules shuffle (answers done) = .ok { s with
          players, choices := (places.filter fun i => i ∉ done).map s.choices.get
          history := s.history ++ answers done }) ∧
      (∃ players, ∀ order, order.Perm places →
        s.playOut rules shuffle (answers order) = .ok { s with
          players, choices := [], history := s.history ++ answers order }) ∧
      ∀ order order', order.Perm places → order'.Perm places →
        ((answers order).map Move.unplaced).Perm ((answers order').map Move.unplaced) := by
  constructor
  · intro hne
    obtain ⟨p, hp⟩ := h.seated.exists_current (h.asked hne).2
    exact ⟨p, State.current_eq_ok.mpr hp⟩
  intro p hp pick hpick places answers
  have hplaces : places.Nodup := List.nodup_finRange _
  have hqueue : s.choices = places.map s.choices.get := (List.map_get_finRange s.choices).symm
  have hphase {order : List (Fin s.choices.length)} (hne : order ≠ []) : s.phase = .playing := by
    obtain ⟨i, -⟩ := List.exists_mem_of_ne_nil order hne
    have hopen : s.choices ≠ [] := List.length_pos_iff.mp i.pos
    exact State.playing_of_ne (h.asked hopen).1 hgoes
  let gains (i : Fin s.choices.length) := (s.choices.get i).deltasOf (pick i).text
  have run {order : List (Fin s.choices.length)} (horder : order.Nodup) :
      s.playOut rules shuffle (answers order) = .ok {
        s.withPlayer (p.grantedAll (order.flatMap gains)) with
          choices := (places.diff order).map s.choices.get
          history := s.history ++ answers order } :=
    State.playOut_answersTo h.seated hphase (State.current_eq_ok.mp hp) hqueue (fun i _ => hpick i)
      horder fun i _ => List.mem_finRange i
  have hnodup {order : List (Fin s.choices.length)} (horder : order.Perm places) : order.Nodup :=
    horder.nodup_iff.mpr hplaces
  refine ⟨fun done rest hperm => ?_, ?_, fun order order' hperm hperm' => ?_⟩
  · have hdone : done.Nodup := (hnodup hperm).of_append_left
    rw [← hplaces.sdiff_eq_filter]
    exact ⟨_, run hdone⟩
  · refine ⟨(s.withPlayer (p.grantedAll (places.flatMap gains))).players, fun order hperm => ?_⟩
    have hgains : (order.flatMap gains).Perm (places.flatMap gains) := hperm.flatMap_right gains
    have hnone : places.diff order = [] := by
      rw [hplaces.sdiff_eq_filter, List.filter_eq_nil_iff]
      intro i hi
      simpa using hperm.mem_iff.mpr hi
    have hrun := run (hnodup hperm)
    rw [hnone, p.grantedAll_perm hgains] at hrun
    exact hrun
  · simp only [answers, unplaced_answersTo]
    exact (hperm.trans hperm'.symm).map _

/-- The two choices of a card, in either order. -/
theorem choices_in_any_order_sample :
    ∃ s₀ : State String Int,
      newGame sampleRulebook unshuffled "game" 7 ["Ada", "Ben"] = .ok s₀ ∧
        let s := s₀.run sampleRulebook unshuffled (sampleSteps.take 2)
        s.phase ≠ .ended ∧ s.choices.length = 2 ∧
          ∃ p, s.current = .ok p ∧ ∃ pick : Fin s.choices.length → Benefit,
            (∀ i, pick i ∈ (s.choices.get i).options) ∧
            ∃ players, ∀ order, order.Perm (List.finRange s.choices.length) →
              let answers := answersTo p.id pick (List.finRange s.choices.length) order
              s.playOut sampleRulebook unshuffled answers = .ok { s with
                players, choices := [], history := s.history ++ answers } := by
  obtain ⟨s₀, h⟩ : ∃ s₀ : State String Int,
      newGame sampleRulebook unshuffled "game" 7 ["Ada", "Ben"] = .ok s₀ := ⟨_, rfl⟩
  let s := s₀.run sampleRulebook unshuffled (sampleSteps.take 2)
  let pick (i : Fin s.choices.length) : Benefit := (s.choices.get i).options.headD ⟨"", []⟩
  have hsample : s.phase ≠ .ended ∧ s.choices.length = 2 ∧
      ∀ i, pick i ∈ (s.choices.get i).options := by
    subst pick s
    obtain rfl := Except.ok.inj h
    decide +kernel
  obtain ⟨hgoes, hlength, hpick⟩ := hsample
  obtain ⟨hcurrent, hanswers⟩ :=
    choices_in_any_order (Reachable.run (.deal h) (sampleSteps.take 2)) hgoes
  have hopen : s.choices ≠ [] := List.length_pos_iff.mp (by omega)
  obtain ⟨p, hp⟩ := hcurrent hopen
  obtain ⟨-, hplayers, -⟩ := hanswers p hp pick hpick
  exact ⟨s₀, h, hgoes, hlength, p, hp, pick, hpick, hplayers⟩

def soloRulebook : Rulebook String :=
  { sampleRulebook with
    minPlayers := 1, cards := sampleRulebook.cards.take 1, handSize := 1, deckSize := 0 }

theorem newGame_solo :
    ∃ s₀ : State String Int, newGame soloRulebook Shuffle.seeded "game" 7 ["Ada"] = .ok s₀ ∧
      newGame soloRulebook unshuffled "game" 7 ["Ada"] = .ok s₀ :=
  newGame_single rfl "game" 7 ["Ada"] (by decide +kernel) (by decide)

/-- A game that is over refuses every answer, and may be over while choices are open: here the common
deck is empty from the start, so the game ends once the first card is played. -/
theorem choice_refused_when_over :
    ∃ s₀ : State String Int,
      newGame soloRulebook Shuffle.seeded "game" 7 ["Ada"] = .ok s₀ ∧
        let s := s₀.run soloRulebook Shuffle.seeded (sampleSteps.take 2 ++ [.close])
        ∃ p c b, s.current = .ok p ∧ s.choices[0]? = some c ∧ b ∈ c.options ∧
          s.play soloRulebook Shuffle.seeded (.choose p.id 0 b.text) = .error .gameOver := by
  obtain ⟨s₀, h, hplain⟩ := newGame_solo
  let s := s₀.run soloRulebook Shuffle.seeded (sampleSteps.take 2 ++ [.close])
  have hover : s.phase = .ended ∧ ((s.choices[0]?.bind (·.options.head?)).isSome = true) := by
    subst s
    obtain rfl := Except.ok.inj hplain
    decide +kernel
  obtain ⟨hended, hsome⟩ := hover
  obtain ⟨b, hb⟩ := Option.isSome_iff_exists.mp hsome
  obtain ⟨c, hc, hb⟩ := Option.bind_eq_some_iff.mp hb
  have hreachable : Reachable soloRulebook Shuffle.seeded s := Reachable.run (.deal h) _
  have hopen : s.choices ≠ [] := List.ne_nil_of_mem (List.mem_of_getElem? hc)
  obtain ⟨p, hp⟩ := hreachable.seated.exists_current (hreachable.asked hopen).2
  exact ⟨s₀, h, p, c, b, State.current_eq_ok.mpr hp, hc, List.mem_of_head? hb,
    State.play_of_ended hended⟩

end GuildCards
