import Mathlib
import GuildCards.Proofs.Effect.Amounts
import GuildCards.Proofs.Play.Course
import GuildCards.Proofs.Play.Legality

/-!
The counters of a game are the balances of its ledger. What outlasts a turn is the balance of all
entries of a player; every other counter of the current player is the balance of the entries of the
turn, and of all others zero. Discards are left out: accepting a conditional sets their credits.
-/
namespace GuildCards
open Document Effect

variable {rules : Rulebook String} {shuffle : Shuffler String Int} {s t s₀ : State String Int}
  {p q : Player String Int} {r : Played String Int} {m : Move} {es : Ledger}

inductive Books (s : State String Int) (p : Player String Int) (m : Move) (t : State String Int) :
    Prop where
  | within (q : Player String Int) (players : t.players = (s.withPlayer q).players)
    (id : q.id = p.id) (seat : t.seat = s.seat) (turn : t.turn = s.turn)
    (counters : ∀ c, c ≠ .discard →
      q.counters.get c = p.counters.get c + Ledger.balance [s.entry m t] c)
  | passing (q : Player String Int) (players : t.players = (s.withPlayer q).players)
    (id : q.id = p.id) (seat : t.seat = (s.seat + 1).fmod s.players.length)
    (turn : t.turn = s.turn + 1) (counters : q.counters = p.counters.endTurn)
    (quiet : ∀ c, Ledger.balance [s.entry m t] c = 0)

theorem State.entry_quiet (hgrants : s.grants m t = []) (hpays : s.pays m = [])
    (hm : m.kind.credit? = none) (c : Counter) : Ledger.balance [s.entry m t] c = 0 := by
  rw [Ledger.balance_singleton]
  simp [State.entry, hgrants, hpays, hm, amountOf]

theorem Course.books (h : Course s p m t q) : Books s p m t := by
  cases h.holding with
  | trading seat turn hm opening funded holds =>
    refine .within q h.players h.id seat turn fun c _ => ?_
    have huse : m.kind.use (.counter c) = if m.kind.credit? = some c then 1 else 0 := by
      simp only [MoveKind.use, MoveKind.uses?_counter]
    have hholds := holds (.counter c)
    rw [huse] at hholds
    rw [Ledger.balance_singleton]
    change q.counters.get c = p.counters.get c + (amountOf (.counter c) (s.grants m t) -
      amountOf (.counter c) (s.pays m) - if m.kind.credit? = some c then 1 else 0)
    change q.counters.get c = p.counters.get c + _ - _ - _ at hholds
    rw [hholds]
    ring
  | owing d seat turn hm hd grants pays counters armies =>
    refine .within q h.players h.id seat turn fun c hc => ?_
    rw [State.entry_quiet grants pays (by rw [hm]; rfl), counters, Counters.get_set, if_neg hc,
      add_zero]
  | passing seat turn hm grants pays counters armies =>
    refine .passing q h.players h.id seat turn counters (State.entry_quiet grants pays ?_)
    rcases hm with hm | hm <;> rw [hm] <;> rfl

theorem State.play_books (hs : s.Seated) (h : s.play rules shuffle m = .ok r) :
    ∃ p, s.MayMove m p ∧ Books s p m r.state := by
  obtain ⟨p, q, hp, hq⟩ := State.play_course hs h
  exact ⟨p, hp, hq.books⟩

/-- A state that its ledger accounts for. -/
structure Balanced (rules : Rulebook String) (s : State String Int) (es : Ledger) : Prop where
  dated : ∀ e ∈ es, e.turn ≤ s.turn
  mover : ∀ e ∈ es, e.turn = s.turn → ∀ p, atSeat? s.players s.seat = some p → e.player = p.id
  lasting : ∀ p ∈ s.players, ∀ c, c.lasts = true → p.counters.get c =
    (if c = .gold then rules.startingGold else 0) + (es.ofPlayer p.id).balance c
  current : ∀ p, atSeat? s.players s.seat = some p → ∀ c, c.lasts = false → c ≠ .discard →
    p.counters.get c = (es.inTurn s.turn).balance c
  idle : ∀ p ∈ s.players, atSeat? s.players s.seat ≠ some p → ∀ c, c.lasts = false →
    p.counters.get c = 0

namespace Balanced

theorem congr (h : Balanced rules s es) (players : t.players = s.players) (seat : t.seat = s.seat)
    (turn : t.turn = s.turn) : Balanced rules t es := by
  obtain ⟨h₁, h₂, h₃, h₄, h₅⟩ := h
  constructor <;> simpa only [players, seat, turn]

theorem lasting_step (h : Balanced rules s es) (hs : s.Seated) (hp : s.MayMove m p)
    (players : t.players = (s.withPlayer q).players) (id : q.id = p.id)
    (counters : ∀ c, c.lasts = true →
      q.counters.get c = p.counters.get c + Ledger.balance [s.entry m t] c) :
    ∀ u ∈ t.players, ∀ c, c.lasts = true → u.counters.get c =
      (if c = .gold then rules.startingGold else 0) +
        (Ledger.ofPlayer (es ++ [s.entry m t]) u.id).balance c := by
  have hplayer := hp.entry_player t
  intro u hu c hc
  rw [players] at hu
  rcases State.mem_withPlayer hu with rfl | ⟨hu, hne⟩
  · rw [id, ← hplayer, Ledger.ofPlayer_append_self, Ledger.balance_append, counters c hc,
      h.lasting p (hs.mem hp.current) c hc, hplayer, add_assoc]
  · rw [Ledger.ofPlayer_append_of_ne (by rw [hplayer, ← id]; exact hne.symm)]
    exact h.lasting u hu c hc

theorem play (h : Balanced rules s es) (hs : s.Seated) (hp : s.MayMove m p)
    (hb : Books s p m t) : Balanced rules t (es ++ [s.entry m t]) := by
  have hplayer := hp.entry_player t
  have hmem := hs.mem hp.current
  cases hb with
  | within q players id seat turn counters =>
    have hcurrent : atSeat? t.players t.seat = some q :=
      State.Goes.current (s := { s with phase := t.phase }) ⟨hs.distinct, hs.nonneg, hs.within⟩
        hp.current ⟨players, seat, rfl, id⟩
    have hlasting := h.lasting_step hs hp players id fun c hc =>
      counters c (by rintro rfl; cases hc)
    refine ⟨?_, ?_, hlasting, ?_, ?_⟩
    · rw [turn, List.forall_mem_append, List.forall_mem_singleton]
      exact ⟨h.dated, le_rfl⟩
    · rw [turn, List.forall_mem_append, List.forall_mem_singleton]
      refine ⟨fun e he hturn u hu => ?_, fun _ u hu => ?_⟩ <;>
        obtain rfl := Option.some.inj (hcurrent.symm.trans hu) <;> rw [id]
      · exact h.mover e he hturn p hp.current
      · exact hplayer
    · intro u hu c hc hne
      obtain rfl := Option.some.inj (hcurrent.symm.trans hu)
      have hturn : s.turn = (s.entry m t).turn := rfl
      rw [turn, hturn, Ledger.inTurn_append_self, Ledger.balance_append, counters c hne,
        h.current p hp.current c hc hne]
      rfl
    · intro u hu hother c hc
      rw [players] at hu
      rcases State.mem_withPlayer hu with rfl | ⟨hu, hne⟩
      · exact absurd hcurrent hother
      · refine h.idle u hu (fun hcur => hne ?_) c hc
        rw [Option.some.inj (hcur.symm.trans hp.current), id]
  | passing q players id seat turn counters quiet =>
    have hdated : ∀ e ∈ es ++ [s.entry m t], e.turn < t.turn := by
      rw [turn, List.forall_mem_append, List.forall_mem_singleton]
      exact ⟨fun e he => Int.lt_add_one_of_le (h.dated e he), Int.lt_succ s.turn⟩
    -- whoever is next has nothing left over from the turn before
    have hclear : ∀ u ∈ t.players, ∀ c, c.lasts = false → u.counters.get c = 0 := by
      intro u hu c hc
      rw [players] at hu
      rcases State.mem_withPlayer hu with rfl | ⟨hu, hne⟩
      · rw [counters, Counters.get_endTurn, hc]
        rfl
      · refine h.idle u hu (fun hcur => hne ?_) c hc
        rw [Option.some.inj (hcur.symm.trans hp.current), id]
    refine ⟨fun e he => (hdated e he).le, fun e he hturn => absurd hturn (hdated e he).ne, ?_, ?_,
      fun u hu _ => hclear u hu⟩
    · refine h.lasting_step hs hp players id fun c hc => ?_
      rw [quiet, add_zero, counters, Counters.get_endTurn, if_pos hc]
    · intro u hu c hc _
      rw [Ledger.inTurn_of_lt hdated, Ledger.balance_nil]
      exact hclear u (State.mem_of_atSeat? hu) c hc

theorem newGame {id : String} {seed : Int} {names : List String}
    (h : GuildCards.newGame rules shuffle id seed names = .ok s) : Balanced rules s [] := by
  obtain ⟨-, cards, -, rfl⟩ := State.newGame_eq_ok.mp h
  have hcounters : ∀ p ∈ (deal (ν := Int) rules 1 cards names).1, ∀ c, p.counters.get c =
      if c = .gold then rules.startingGold else 0 := by
    intro p hp c
    rw [(State.deal_players p hp).counters, Counters.get_set]
    split_ifs <;> cases c <;> rfl
  have hclear : ∀ p ∈ (deal (ν := Int) rules 1 cards names).1, ∀ c, c.lasts = false →
      p.counters.get c = 0 := by
    intro p hp c hc
    rw [hcounters p hp, if_neg]
    rintro rfl
    cases hc
  exact ⟨by simp, by simp, fun p hp c _ => (hcounters p hp c).trans (add_zero _).symm,
    fun p hp c hc _ => hclear p (State.mem_of_atSeat? hp) c hc, fun p hp _ => hclear p hp⟩

theorem after (h : Balanced rules s es) (hs : s.Seated) (x : Step) :
    Balanced rules (s.after rules shuffle x) (es ++ s.entries rules shuffle x) := by
  cases x with
  | move m =>
    change Balanced rules (s.next rules shuffle m) _
    cases hr : s.play rules shuffle m with
    | error why => simpa [State.next, State.entries, hr] using h
    | ok r =>
      obtain ⟨p, hp, hb⟩ := State.play_books hs hr
      rw [State.next_of_play hr, State.entries, hr]
      exact h.play hs hp hb
  | close =>
    rw [State.entries, List.append_nil]
    rcases State.close_eq_or rules shuffle s with heq | ⟨-, heq⟩ <;> rw [heq]
    · exact h
    · exact h.congr rfl rfl rfl
  | stamp name time =>
    rw [State.entries, List.append_nil]
    exact h.congr rfl rfl rfl

theorem run (h : Balanced rules s es) (hs : Reachable rules shuffle s) (steps : List Step) :
    Balanced rules (s.run rules shuffle steps) (es ++ s.ledger rules shuffle steps) := by
  induction steps generalizing s es with
  | nil => rwa [State.ledger, List.append_nil]
  | cons x xs ih =>
    rw [State.ledger, ← List.append_assoc]
    exact ih (h.after hs.seated x) (hs.step x)

end Balanced

theorem Reachable.pays_payable (hs : Reachable rules shuffle s) (m : Move) :
    ∀ d ∈ s.pays m, isPayable d.resource = true := by
  intro d hd
  unfold State.pays at hd
  split at hd
  · cases hx : s.paidFor? m with
    | none => simp [hx] at hd
    | some x =>
      obtain ⟨e, he⟩ := hs.questions
      obtain ⟨c, t, hc⟩ := he.conditional_mem (State.mem_of_paidFor? hx)
      rw [hx, Option.map_some, Option.getD_some, Cost.payment] at hd
      split at hd
      · rename_i r _ hr
        obtain rfl := List.mem_singleton.mp hd
        exact Card.payable hc hr
      · cases hd
  · cases hd

theorem Reachable.paid_payable (hs : Reachable rules shuffle s) (steps : List Step) :
    ∀ e ∈ s.ledger rules shuffle steps, ∀ d ∈ e.paid, isPayable d.resource = true := by
  induction steps generalizing s with
  | nil => simp [State.ledger]
  | cons x xs ih =>
    rw [State.ledger, List.forall_mem_append]
    refine ⟨?_, ih (hs.step x)⟩
    intro e he d hd
    unfold State.entries at he
    split at he
    · split at he
      · obtain rfl := List.mem_singleton.mp he
        exact hs.pays_payable _ d hd
      · cases he
    · cases he
    · cases he

theorem Ledger.paid_credit {k : MoveKind} {c : Counter} (hk : k.credit? = some c)
    (h : ∀ e ∈ es, ∀ d ∈ e.paid, isPayable d.resource = true) : es.paid c = 0 := by
  refine amountOf_eq_zero fun d hd hc => ?_
  obtain ⟨e, he, hd⟩ := List.mem_flatMap.mp hd
  have hpay := h e he d hd
  rw [hc] at hpay
  cases k <;> cases hk <;> cases hpay

/-- Nothing is free and nothing is lost. Gold and victory points of every player are what was granted
over the whole game less what was paid, beside the gold a player starts with. Of the current player
knowledge is what was granted in the turn less what was paid, and the credits for each kind of move
but discards are those granted in the turn less the moves of the kind; all moves of the turn are that
player's. -/
theorem ledger_balances {id : String} {seed : Int} {names : List String}
    (h : newGame rules shuffle id seed names = .ok s₀) (steps : List Step) :
    let s := s₀.run rules shuffle steps
    let ledger := s₀.ledger rules shuffle steps
    let turn := ledger.inTurn s.turn
    (∀ p ∈ s.players,
      let own := ledger.ofPlayer p.id
      p.counters.gold = rules.startingGold + own.granted .gold - own.paid .gold ∧
        p.counters.victoryPoints = own.granted .victoryPoints - own.paid .victoryPoints) ∧
    ∀ p, s.current = .ok p →
      (∀ e ∈ turn, e.player = p.id) ∧
        p.counters.knowledge = turn.granted .knowledge - turn.paid .knowledge ∧
        ∀ k c, k.credit? = some c → k ≠ .discard →
          p.counters.get c = turn.granted c - turn.count k := by
  intro s ledger turn
  have hbalanced : Balanced rules s ledger := (Balanced.newGame h).run (.deal h) steps
  refine ⟨?_, fun p hp => ⟨?_, ?_, ?_⟩⟩
  · intro p hp own
    have hgold := hbalanced.lasting p hp .gold rfl
    have hpoints := hbalanced.lasting p hp .victoryPoints rfl
    rw [Ledger.balance_of_unused (fun k => by cases k <;> decide)] at hgold hpoints
    exact ⟨hgold.trans (add_sub_assoc ..).symm, hpoints.trans (zero_add _)⟩
  · intro e he
    obtain ⟨he, hturn⟩ := List.mem_filter.mp he
    exact hbalanced.mover e he (of_decide_eq_true hturn) p (State.current_eq_ok.mp hp)
  · rw [← Ledger.balance_of_unused (fun k => by cases k <;> decide)]
    exact hbalanced.current p (State.current_eq_ok.mp hp) .knowledge rfl (by decide)
  · intro k c hk hne
    have hpaid : turn.paid c = 0 := Ledger.paid_credit hk fun e he =>
      Reachable.paid_payable (.deal h) steps e (List.mem_of_mem_filter he)
    rw [← Ledger.balance_of_credit hk hpaid]
    refine hbalanced.current p (State.current_eq_ok.mp hp) c (MoveKind.not_lasts_of_credit hk) ?_
    rintro rfl
    exact hne (MoveKind.eq_of_credit hk rfl)

/-- A card is played, its choices are answered, and the card that its conditional costs is
discarded. -/
theorem ledger_balances_sample :
    ∃ s₀ : State String Int,
      newGame sampleRulebook unshuffled "game" 7 ["Ada", "Ben"] = .ok s₀ ∧
        let steps := sampleSteps ++ [.move (.onCard .discard "player-1" "royal-red")]
        let s := s₀.run sampleRulebook unshuffled steps
        let ledger := s₀.ledger sampleRulebook unshuffled steps
        ledger.granted .gold = 4 ∧ ledger.granted .victoryPoints = 1 ∧
          ∀ p ∈ s.players,
            let own := ledger.ofPlayer p.id
            p.counters.gold = sampleRulebook.startingGold + own.granted .gold - own.paid .gold ∧
              p.counters.victoryPoints =
                own.granted .victoryPoints - own.paid .victoryPoints := by
  obtain ⟨s₀, h⟩ : ∃ s₀ : State String Int,
      newGame sampleRulebook unshuffled "game" 7 ["Ada", "Ben"] = .ok s₀ := ⟨_, rfl⟩
  refine ⟨s₀, h, ?_, ?_, (ledger_balances h _).1⟩ <;>
  · obtain rfl := Except.ok.inj h
    decide +kernel

end GuildCards
