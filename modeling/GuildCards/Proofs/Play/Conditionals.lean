import Mathlib
import GuildCards.Proofs.Play.Choices
import GuildCards.Proofs.Play.Solvency

/-!
Open conditionals. A card offers only what its player can pay for by then, and answers to its choices
take nothing away, so what is offered can be accepted once the choices are answered. What is not
accepted may be left open: the next card drops it, as if it had been declined.
-/
namespace GuildCards
open Document Effect

variable {rules : Rulebook String} {shuffle : Shuffler String Int} {s t : State String Int}
  {p q : Player String Int} {r : Played String Int} {m : Move} {ms : List Move} {c : Conditional}

theorem Player.affords_mono {cost : Cost} (hand : p.hand.length ≤ q.hand.length)
    (holds : ∀ x, p.holds x ≤ q.holds x) (h : p.affords cost = true) :
    q.affords cost = true := by
  obtain ⟨kind, text, n, resource⟩ := cost
  cases kind with
  | discard =>
    have hn : n ≤ p.hand.length := of_decide_eq_true h
    exact decide_eq_true (hn.trans (Int.ofNat_le.mpr hand))
  | pay =>
    cases resource with
    | none => cases h
    | some x =>
      have hn : n ≤ p.holds x := of_decide_eq_true h
      exact decide_eq_true (hn.trans (holds x))

theorem Player.grantedAll_hand (p : Player String Int) (ds : List Delta) :
    (p.grantedAll ds).hand = p.hand := by
  rw [grantedAll_eq]
  rfl

/-- The player whose turn it is can pay for each of the open conditionals, and none is deferred. -/
structure Funded (s : State String Int) (p : Player String Int) : Prop where
  playing : s.phase = .playing
  current : atSeat? s.players s.seat = some p
  deferred : s.deferred = none
  affords : ∀ c ∈ s.conditionals, p.affords c.cost = true

namespace Funded

theorem expand (hs : s.Seated) (hm : m.kind = .expand) (h : s.play rules shuffle m = .ok r) :
    ∃ p, Funded r.state p := by
  obtain ⟨p, x, hp, hx, rfl⟩ := State.play_eq_ok.mp h
  simp only [State.perform, hm] at hx
  obtain ⟨card, tier, -, rfl⟩ := State.expand_eq_ok.mp hx
  have hplaying : s.phase = .playing := hp.playing (by simp [hm])
  -- what is open is what the player affords once the card has brought its gains
  refine ⟨(p.putDown card).grantedAll (grantsOf (card.clausesAt tier)), hplaying,
    State.Goes.current hs hp.current ⟨rfl, rfl, rfl, Player.grantedAll_id ..⟩, rfl, ?_⟩
  intro c hc
  exact (List.mem_filter.mp hc).2

theorem choose (h : Funded s p) (hs : Reachable rules shuffle s) (hm : m.kind = .resolveChoice)
    (hr : s.play rules shuffle m = .ok r) : ∃ q, Funded r.state q := by
  obtain ⟨p', x, hp, hx, rfl⟩ := State.play_eq_ok.mp hr
  obtain rfl : p' = p := Option.some.inj (hp.current.symm.trans h.current)
  simp only [State.perform, hm] at hx
  obtain ⟨c, name, b, -, hc, -, hb, rfl⟩ := State.answerChoice_eq_ok.mp hx
  have hoffered : s.Offered b :=
    .inl ⟨c, List.mem_of_getElem? hc, List.mem_of_find?_eq_some hb⟩
  have hholds (x : Resource) : p'.holds x ≤ (p'.grantedAll b.deltas).holds x := by
    rw [Player.holds_grantedAll]
    exact le_add_of_nonneg_right (amountOf_nonneg (hs.offered_nonneg hoffered) x)
  refine ⟨p'.grantedAll b.deltas, h.playing,
    State.Goes.current hs.seated hp.current ⟨rfl, rfl, rfl, Player.grantedAll_id ..⟩, h.deferred, ?_⟩
  intro d hd
  have hhand : p'.hand.length ≤ (p'.grantedAll b.deltas).hand.length := by
    rw [Player.grantedAll_hand]
  exact Player.affords_mono hhand hholds (h.affords d hd)

/-- However many choices are answered, what has been offered stays affordable. -/
theorem playOut (h : Funded s p) (hs : Reachable rules shuffle s)
    (hms : ∀ m ∈ ms, m.kind = .resolveChoice) (hout : s.playOut rules shuffle ms = .ok t) :
    Reachable rules shuffle t ∧ ∃ q, Funded t q := by
  induction ms generalizing s p with
  | nil =>
    obtain rfl := Except.ok.inj hout
    exact ⟨hs, p, h⟩
  | cons m ms ih =>
    obtain ⟨hm, hms⟩ := List.forall_mem_cons.mp hms
    obtain ⟨r, hr, hout⟩ := State.playOut_cons_eq_ok.mp hout
    obtain ⟨q, hq⟩ := h.choose hs hm hr
    exact ih hq (hs.play hr) hms hout

theorem accept {choice : Value} {b : Benefit} (h : Funded s p) (hchoices : s.choices = [])
    (hfront : s.conditionals.head? = some c) (hb : c.Grants choice b) :
    ∃ r, s.play rules shuffle (.answer p.id true choice) = .ok r := by
  have hmay : s.MayMove (.answer p.id true choice) p :=
    State.mayMove_of_free h.playing h.current rfl rfl
  have haffords : p.affords c.cost = true := h.affords c (List.mem_of_head? hfront)
  obtain ⟨x, hx⟩ : ∃ x, s.perform rules shuffle p (.answer p.id true choice) = .ok x :=
    State.exists_answered rfl hchoices hfront h.deferred fun _ => ⟨b, hb, haffords⟩
  exact ⟨_, State.play_eq_ok.mpr ⟨p, x, hmay, hx, rfl⟩⟩

end Funded

/-- A conditional that is offered can be honoured: after a card has been played and its choices have
been answered, the front conditional is accepted by the player whose turn it is, whichever of its
nested benefits the answer names, or without a name if it nests none. -/
theorem offer_honoured (h : Reachable rules shuffle s) (hm : m.kind = .expand)
    (hr : s.play rules shuffle m = .ok r) (hms : ∀ a ∈ ms, a.kind = .resolveChoice)
    (hout : r.state.playOut rules shuffle ms = .ok t) (hchoices : t.choices = [])
    (hfront : t.conditionals.head? = some c) :
    ∃ p, t.current = .ok p ∧
      (c.nested = [] → ∃ u, t.play rules shuffle (.answer p.id true) = .ok u) ∧
      ∀ b ∈ c.nested, ∀ name, b.matches name = true →
        ∃ u, t.play rules shuffle (.answer p.id true (.text name)) = .ok u := by
  obtain ⟨q, hq⟩ := Funded.expand h.seated hm hr
  obtain ⟨ht, p, hp⟩ := hq.playOut (h.play hr) hms hout
  refine ⟨p, State.current_eq_ok.mpr hp.current, fun hnone => ?_, fun b hb name hname => ?_⟩
  · exact hp.accept hchoices hfront (.inl ⟨hnone, rfl⟩)
  · have hkey : nameKey b.text = nameKey name := matches_iff.mp hname
    obtain ⟨d, hd⟩ := exists_find? hb hkey
    have hempty : name ≠ "" := by
      rintro rfl
      exact ht.nested_named (List.mem_of_head? hfront) hb (hkey.trans nameKey_empty)
    exact hp.accept hchoices hfront
      (.inr ⟨List.ne_nil_of_mem hb, name, rfl, hempty, hd⟩)

/-- A card with two choices is played and both are answered; its first conditional nests benefits. -/
theorem offer_honoured_sample :
    ∃ s₀ : State String Int,
      newGame sampleRulebook unshuffled "game" 7 ["Ada", "Ben"] = .ok s₀ ∧
        let s := s₀.run sampleRulebook unshuffled (sampleSteps.take 1)
        ∃ r t c p,
          s.play sampleRulebook unshuffled (.onCard .expand "player-1" "royal-blue") = .ok r ∧
          r.state.playOut sampleRulebook unshuffled
            [.choose "player-1" 1 "+1 draw", .choose "player-1" 0 "+1 take"] = .ok t ∧
          t.choices = [] ∧ t.conditionals.head? = some c ∧ c.nested ≠ [] ∧ t.current = .ok p ∧
          ∀ b ∈ c.nested, ∃ u,
            t.play sampleRulebook unshuffled (.answer p.id true (.text b.text)) = .ok u := by
  obtain ⟨s₀, h⟩ : ∃ s₀ : State String Int,
      newGame sampleRulebook unshuffled "game" 7 ["Ada", "Ben"] = .ok s₀ := ⟨_, rfl⟩
  let s := s₀.run sampleRulebook unshuffled (sampleSteps.take 1)
  let m : Move := .onCard .expand "player-1" "royal-blue"
  let ms : List Move := [.choose "player-1" 1 "+1 draw", .choose "player-1" 0 "+1 take"]
  have hsample : (match s.playOut sampleRulebook unshuffled (m :: ms) with
      | .ok t => t.choices.isEmpty && t.conditionals.head?.any (!·.nested.isEmpty)
      | .error _ => false) = true := by
    subst s
    obtain rfl := Except.ok.inj h
    decide +kernel
  cases hall : s.playOut sampleRulebook unshuffled (m :: ms) with
  | error why =>
    rw [hall] at hsample
    cases hsample
  | ok t =>
    obtain ⟨r, hr, hout⟩ := State.playOut_cons_eq_ok.mp hall
    rw [hall, Bool.and_eq_true, List.isEmpty_iff, Option.any_eq_true] at hsample
    obtain ⟨hchoices, c, hfront, hnested⟩ := hsample
    obtain ⟨p, hp, -, haccepts⟩ := offer_honoured (Reachable.run (.deal h) (sampleSteps.take 1))
      rfl hr (by decide) hout hchoices hfront
    exact ⟨s₀, h, r, t, c, p, hr, hout, hchoices, hfront, by simpa using hnested, hp,
      fun b hb => haccepts b hb b.text (matches_iff.mpr rfl)⟩

namespace State

def declining (s : State String Int) (no : Move) (n : Nat) : State String Int :=
  { s with
    conditionals := s.conditionals.drop n
    history := s.history ++ List.replicate n no }

theorem declining_zero (s : State String Int) (no : Move) : s.declining no 0 = s := by
  rw [declining, List.replicate_zero, List.append_nil]
  rfl

theorem play_decline {n : Nat} (hphase : s.phase = .playing)
    (hp : atSeat? s.players s.seat = some p) (hchoices : s.choices = [])
    (hdeferred : s.deferred = none) (hc : s.conditionals[n]? = some c) :
    let no := Move.answer p.id false
    (s.declining no n).play rules shuffle no = .ok {
      state := s.declining no (n + 1), events := [.declined (.text p.name) c.source] } := by
  intro no
  have hmay : (s.declining no n).MayMove no p := mayMove_of_free hphase hp rfl rfl
  have hfront : (s.conditionals.drop n).head? = some c := by rw [List.head?_drop, hc]
  have hanswer : (s.declining no n).answerConditional p false .null = .ok _ :=
    answerConditional_eq_ok.mpr ⟨c, hchoices, hfront, hdeferred, .inl ⟨rfl, rfl⟩⟩
  refine play_eq_ok.mpr ⟨p, _, hmay, hanswer, ?_⟩
  rw [declining, declining, List.replicate_succ', ← List.append_assoc, ← List.tail_drop]
  rfl

theorem playOut_decline (hphase : s.phase = .playing) (hp : atSeat? s.players s.seat = some p)
    (hchoices : s.choices = []) (hdeferred : s.deferred = none) {n : Nat}
    (hn : n ≤ s.conditionals.length) :
    let no := Move.answer p.id false
    s.playOut rules shuffle (List.replicate n no) = .ok (s.declining no n) := by
  intro no
  induction n with
  | zero =>
    rw [declining_zero]
    rfl
  | succ n ih =>
    have hc : s.conditionals[n]? = some s.conditionals[n] := List.getElem?_eq_getElem hn
    rw [List.replicate_succ', playOut_append (ih (Nat.le_of_succ_le hn)),
      playOut_of_play (play_decline hphase hp hchoices hdeferred hc)]
    rfl

/-- A card is played alike whether conditionals are open or none is, under a policy that allows it. -/
theorem play_expand_of_answered {history : List Move} (hm : m.kind = .expand)
    (hchoices : s.choices = []) (hr : s.play rules shuffle m = .ok r) :
    ∃ u, ({ s with conditionals := [], history := history } : State String Int).play
        rules shuffle m = .ok u ∧
      u.state = { r.state with history := history ++ [m] } := by
  obtain ⟨p, x, hp, hx, rfl⟩ := play_eq_ok.mp hr
  simp only [perform, hm] at hx
  obtain ⟨c, t, hc, rfl⟩ := expand_eq_ok.mp hx
  let s' : State String Int := { s with conditionals := [], history := history }
  have hanswered : s'.awaiting? = none := by
    simp only [s', awaiting?, hchoices]
  have hmay : s'.MayMove m p :=
    ⟨hp.goesOn, hp.started, hp.seated, hp.current, hp.named, hp.credit⟩
  have hc' : s'.MayExpand rules p m.card c t :=
    ⟨hc.given, hc.found, hc.owesNothing, .inr hanswered, hc.fits, hc.tier⟩
  have hexpand : s'.perform rules shuffle p m = .ok (s'.expanded p c t) := by
    simp only [perform, hm]
    exact expand_eq_ok.mpr ⟨c, t, hc', rfl⟩
  exact ⟨_, play_eq_ok.mpr ⟨p, _, hmay, hexpand, rfl⟩, rfl⟩

end State

/-- To leave conditionals open and play the next card is to decline them: each of them is declined in
its turn, and then the card is played and leads to the same state but for the answers in the history.
What the card drops, if it is played at once, are the conditionals that are declined, in order. -/
theorem expand_declines (hchoices : s.choices = []) (hdeferred : s.deferred = none)
    (hm : m.kind = .expand) (hr : s.play rules shuffle m = .ok r) :
    ∃ p, s.current = .ok p ∧
      let no := Move.answer p.id false
      let noes := List.replicate s.conditionals.length no
      (∀ n c, s.conditionals[n]? = some c →
        s.playOut rules shuffle (List.replicate n no) = .ok (s.declining no n) ∧
        (s.declining no n).play rules shuffle no = .ok {
          state := s.declining no (n + 1), events := [.declined (.text p.name) c.source] }) ∧
      s.playOut rules shuffle (noes ++ [m]) =
        .ok { r.state with history := s.history ++ noes ++ [m] } ∧
      r.state.history = s.history ++ [m] ∧
      r.dropped = s.conditionals.map .conditional := by
  obtain ⟨p, x, hp, -, -⟩ := State.play_eq_ok.mp hr
  have hphase : s.phase = .playing := hp.playing (by simp [hm])
  have hdropped : r.dropped = s.conditionals.map .conditional := by
    rw [State.dropped_of_play hr, if_pos hm, State.open?, hchoices, List.map_nil, List.nil_append]
  refine ⟨p, State.current_eq_ok.mpr hp.current, ?_⟩
  intro no noes
  refine ⟨fun n c hc => ⟨?_, ?_⟩, ?_, State.history_of_play hr, hdropped⟩
  · have hn : n < s.conditionals.length := (List.getElem?_eq_some_iff.mp hc).1
    exact State.playOut_decline hphase hp.current hchoices hdeferred hn.le
  · exact State.play_decline hphase hp.current hchoices hdeferred hc
  · have hnoes : s.playOut rules shuffle noes =
        .ok { s with conditionals := [], history := s.history ++ noes } := by
      rw [State.playOut_decline hphase hp.current hchoices hdeferred le_rfl, State.declining,
        List.drop_length]
    obtain ⟨u, hu, hstate⟩ : ∃ u, State.play rules shuffle _ m = .ok u ∧ u.state = _ :=
      State.play_expand_of_answered hm hchoices hr
    rw [State.playOut_append hnoes, State.playOut_of_play hu, hstate]
    rfl

/-- Two conditionals of a card are left open when the next card is played. -/
theorem expand_declines_sample :
    ∃ s₀ : State String Int,
      newGame sampleRulebook unshuffled "game" 7 ["Ada", "Ben"] = .ok s₀ ∧
        let s := s₀.run sampleRulebook unshuffled (sampleSteps.take 4)
        let m : Move := .onCard .expand "player-1" "royal-red"
        s.choices = [] ∧ s.deferred = none ∧ s.conditionals.length = 2 ∧
          ∃ r p, s.play sampleRulebook unshuffled m = .ok r ∧ s.current = .ok p ∧
            let noes := List.replicate 2 (Move.answer p.id false)
            s.playOut sampleRulebook unshuffled (noes ++ [m]) =
                .ok { r.state with history := s.history ++ noes ++ [m] } ∧
              r.dropped = s.conditionals.map .conditional := by
  obtain ⟨s₀, h⟩ : ∃ s₀ : State String Int,
      newGame sampleRulebook unshuffled "game" 7 ["Ada", "Ben"] = .ok s₀ := ⟨_, rfl⟩
  let s := s₀.run sampleRulebook unshuffled (sampleSteps.take 4)
  let m : Move := .onCard .expand "player-1" "royal-red"
  have hsample : s.choices = [] ∧ s.deferred = none ∧ s.conditionals.length = 2 ∧
      (s.play sampleRulebook unshuffled m).isOk = true := by
    subst s
    obtain rfl := Except.ok.inj h
    decide +kernel
  obtain ⟨hchoices, hdeferred, htwo, hok⟩ := hsample
  obtain ⟨r, hr⟩ := exists_of_isOk hok
  obtain ⟨p, hp, -, hout, -, hdropped⟩ := expand_declines hchoices hdeferred rfl hr
  rw [htwo] at hout
  exact ⟨s₀, h, hchoices, hdeferred, htwo, r, p, hr, hp, hout, hdropped⟩

end GuildCards
