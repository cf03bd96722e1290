import Mathlib
import GuildCards.Proofs.Cards.Turnover
import GuildCards.State.Record

/-!
Cards are neither made nor lost over a whole run. A player owns the cards dealt to the player and
those of the player's accepted takes, the common deck is the dealt one without the cards taken, and
an exiled card stays in exile.
-/
namespace GuildCards
open Document

variable {rules : Rulebook String} {shuffle : Shuffler String Int} {s t u s₀ : State String Int}
  {p q : Player String Int} {m : Move} {c : Card String} {ts us : List (String × Card String)}

namespace State

/-- Who takes which card by a step: the player and the card that an accepted take names. -/
def taken (rules : Rulebook String) (shuffle : Shuffler String Int) (s : State String Int) :
    Step → List (String × Card String)
  | .move m =>
    match m.kind, m.player, rules.card? m.card, s.play rules shuffle m with
    | .take, .text player, some c, .ok _ => [(player, c)]
    | _, _, _, _ => []
  | _ => []

def takings (rules : Rulebook String) (shuffle : Shuffler String Int) (s : State String Int) :
    List Step → List (String × Card String)
  | [] => []
  | x :: xs => s.taken rules shuffle x ++ (s.after rules shuffle x).takings rules shuffle xs

end State

def takenBy (player : String) (ts : List (String × Card String)) : List (Card String) :=
  (ts.filter fun x => x.1 = player).map (·.2)

/-- A player before and after some cards are taken: the player owns the taken ones too, and what was
in exile still is. -/
structure Owns (ts : List (String × Card String)) (p q : Player String Int) : Prop where
  id : q.id = p.id
  cards : q.cards.Perm (p.cards ++ takenBy p.id ts)
  exile : p.exile <+: q.exile

/-- A state before and after some cards are taken. -/
structure Flow (ts : List (String × Card String)) (s t : State String Int) : Prop where
  whole : t.cards.Perm s.cards
  owned : List.Forall₂ (Owns ts) s.players t.players
  common : t.common = s.common.filter fun c => c ∉ ts.map (·.2)
  market : s.common.Perm (t.common ++ ts.map (·.2))

theorem takenBy_append (player : String) (ts us : List (String × Card String)) :
    takenBy player (ts ++ us) = takenBy player ts ++ takenBy player us := by
  simp [takenBy]

theorem forall₂_trans {α : Type} {R S T : α → α → Prop} (h : ∀ a b c, R a b → S b c → T a c)
    {as bs cs : List α} (hR : List.Forall₂ R as bs) (hS : List.Forall₂ S bs cs) :
    List.Forall₂ T as cs := by
  induction hR generalizing cs with
  | nil =>
    cases hS
    exact .nil
  | cons hab _ ih =>
    cases hS with
    | cons hbc hS => exact .cons (h _ _ _ hab hbc) (ih hS)

theorem Owns.trans {o : Player String Int} (h : Owns ts o p) (h' : Owns us p q) :
    Owns (ts ++ us) o q := by
  refine ⟨h'.id.trans h.id, ?_, h.exile.trans h'.exile⟩
  have hcards := h'.cards
  rw [h.id] at hcards
  rw [takenBy_append, ← List.append_assoc]
  exact hcards.trans (h.cards.append_right _)

namespace Flow

theorem refl (s : State String Int) : Flow [] s s :=
  ⟨.rfl, List.forall₂_same.mpr fun p _ => ⟨rfl, by simp [takenBy], List.prefix_rfl⟩, by simp,
    by simp⟩

theorem trans (h : Flow ts s t) (h' : Flow us t u) : Flow (ts ++ us) s u := by
  refine ⟨h'.whole.trans h.whole, ?_, ?_, ?_⟩
  · exact forall₂_trans (R := Owns ts) (S := Owns us) (T := Owns (ts ++ us))
      (fun _ _ _ => Owns.trans) h.owned h'.owned
  · rw [h'.common, h.common, List.filter_filter]
    apply List.filter_congr
    intro c _
    rw [Bool.eq_iff_iff]
    simp only [List.map_append, List.mem_append, Bool.and_eq_true, decide_eq_true_eq]
    tauto
  · have hmarket : (t.common ++ ts.map (·.2)).Perm (u.common ++ us.map (·.2) ++ ts.map (·.2)) :=
      h'.market.append_right _
    refine h.market.trans (hmarket.trans ?_)
    rw [List.map_append, List.append_assoc]
    exact List.perm_append_comm.append_left _

end Flow

namespace State

theorem Seated.split (hs : s.Seated) (hp : p ∈ s.players) :
    ∃ before after, s.players = before ++ p :: after ∧
      ∀ q : Player String Int, q.id = p.id → (s.withPlayer q).players = before ++ q :: after := by
  obtain ⟨before, after, hsplit⟩ := List.append_of_mem hp
  refine ⟨before, after, hsplit, fun q hq => ?_⟩
  have hd := hs.distinct
  rw [hsplit, List.map_append, List.map_cons, List.nodup_middle, List.nodup_cons] at hd
  have hother : ∀ x ∈ before ++ after, x.id ≠ p.id := by
    intro x hx hid
    rw [← List.map_append] at hd
    exact hd.1 (hid ▸ List.mem_map_of_mem hx)
  have hkeep (xs : List (Player String Int)) (hxs : ∀ x ∈ xs, x ∈ before ++ after) :
      (xs.map fun x => if x.id = p.id then q else x) = xs := by
    conv_rhs => rw [← List.map_id xs]
    apply List.map_congr_left
    intro x hx
    exact if_neg (hother x (hxs x hx))
  rw [players_withPlayer, hsplit, List.map_append, List.map_cons, hq, if_pos rfl,
    hkeep before fun x => List.mem_append_left _, hkeep after fun x => List.mem_append_right _]

end State

theorem cards_sublist (hp : p ∈ s.players) : p.cards.Sublist s.cards := by
  rw [State.cards, List.flatMap_def]
  exact (List.sublist_flatten_of_mem (List.mem_map_of_mem hp)).trans (List.sublist_append_right ..)

theorem count_cards_withPlayer (hs : s.Seated) (hp : p ∈ s.players) (hid : q.id = p.id)
    (hplayers : t.players = (s.withPlayer q).players) (a : Card String) :
    t.cards.count a + s.common.count a + p.cards.count a =
      s.cards.count a + t.common.count a + q.cards.count a := by
  obtain ⟨before, after, hsplit, hwith⟩ := hs.split hp
  simp only [State.cards, hplayers, hwith q hid, hsplit, List.flatMap_append, List.flatMap_cons,
    List.count_append]
  omega

theorem Moves.flow (hs : s.Seated) (hp : p ∈ s.players) (hd : Distinct s.cards)
    (h : Moves s p m t) :
    (m.kind ≠ .take ∧ Flow [] s t) ∨
      (m.kind = .take ∧ ∃ c ∈ s.common, m.card = .text c.id ∧ Flow [(p.id, c)] s t) := by
  have hcommon : Distinct s.common := hd.sublist (List.sublist_append_left ..)
  cases h with
  -- beside the mover's cards and the common deck nothing is counted anew
  | within q hq hm hplayers hc =>
    refine .inl ⟨hm, ?_, ?_, ?_, ?_⟩
    · rw [List.perm_iff_count]
      intro a
      have h₁ := count_cards_withPlayer hs hp hq.id hplayers a
      have h₂ := hq.cards.count_eq a
      rw [hc] at h₁
      omega
    · rw [hplayers]
      exact State.forall₂_withPlayer hs hp hq.id
        ⟨hq.id, by simpa [takenBy] using hq.cards, hq.exile⟩ fun x _ => ⟨rfl, by simp [takenBy], List.prefix_rfl⟩
    · simp [hc]
    · simp [hc]
  | taking q c hq hm hmem hid hplayers hc =>
    have hremove := Zone.perm_cons_remove hcommon hmem
    refine .inr ⟨hm, c, hmem, hid, ?_, ?_, ?_, ?_⟩
    · rw [List.perm_iff_count]
      intro a
      have h₁ := count_cards_withPlayer hs hp hq.id hplayers a
      have h₂ := hq.cards.count_eq a
      have h₃ := hremove.count_eq a
      rw [hc] at h₁
      simp only [List.count_cons] at h₂ h₃
      omega
    · rw [hplayers]
      refine State.forall₂_withPlayer hs hp hq.id ⟨hq.id, ?_, hq.exile⟩ fun x hx =>
        ⟨rfl, by simp [takenBy, hx.symm], List.prefix_rfl⟩
      have htaken : takenBy p.id [(p.id, c)] = [c] := by simp [takenBy]
      rw [htaken]
      exact hq.cards.trans (List.perm_append_singleton c p.cards).symm
    · rw [hc, Zone.remove_eq_filter hcommon hmem]
      simp
    · rw [hc]
      exact hremove.trans (List.perm_append_singleton c _).symm

namespace State

theorem taken_of_ne (hm : m.kind ≠ .take) : s.taken rules shuffle (.move m) = [] := by
  unfold taken
  simp only []
  split
  · rename_i hk _ _ _
    exact absurd hk hm
  · rfl

theorem after_flow (hs : s.Seated) (hc : s.cards.Perm rules.cards) (hd : Distinct rules.cards)
    (hshuffle : Permutes shuffle) (x : Step) :
    Flow (s.taken rules shuffle x) s (s.after rules shuffle x) := by
  cases x with
  | move m =>
    change Flow _ s (s.next rules shuffle m)
    cases h : s.play rules shuffle m with
    | error e =>
      have hnext : s.next rules shuffle m = s := by simp [next, h]
      have htaken : s.taken rules shuffle (.move m) = [] := by simp [taken, h]
      rw [hnext, htaken]
      exact .refl s
    | ok r =>
      rw [next_of_play h]
      obtain ⟨p, y, hp, hy, rfl⟩ := play_eq_ok.mp h
      have hmem := hs.mem hp.current
      have hds : Distinct s.cards := hd.perm hc.symm
      have hmoves := perform_moves hs hmem (hds.sublist (cards_sublist hmem)) hshuffle hy
      -- the history is not a place of cards
      have hflow : ∀ ts, Flow ts s y.state → Flow ts s
          { y.state with history := y.state.history ++ [m] } :=
        fun ts hf => ⟨hf.whole, hf.owned, hf.common, hf.market⟩
      apply hflow
      rcases hmoves.flow hs hmem hds with ⟨hk, hf⟩ | ⟨hk, c, hcm, hid, hf⟩
      · rwa [taken_of_ne hk]
      · have hcard : rules.card? m.card = some c := by
          rw [hid]
          exact Rulebook.card?_of_mem hd (hc.subset (List.mem_append_left _ hcm))
        have htaken : s.taken rules shuffle (.move m) = [(p.id, c)] := by
          simp [taken, hk, hp.named, hcard, h]
        rwa [htaken]
  | close =>
    rcases close_eq_or rules shuffle s with heq | ⟨-, heq⟩
    · rw [heq]
      exact .refl s
    · rw [heq]
      have hf := Flow.refl s
      exact ⟨hf.whole, hf.owned, hf.common, hf.market⟩
  | stamp name time =>
    have hf := Flow.refl s
    exact ⟨hf.whole, hf.owned, hf.common, hf.market⟩

theorem run_flow (h : Reachable rules shuffle s) (hc : s.cards.Perm rules.cards)
    (hd : Distinct rules.cards) (hshuffle : Permutes shuffle) (steps : List Step) :
    Flow (s.takings rules shuffle steps) s (s.run rules shuffle steps) := by
  induction steps generalizing s with
  | nil => exact .refl s
  | cons x xs ih =>
    have hx := after_flow h.seated hc hd hshuffle x
    exact hx.trans (ih (h.step x) (hx.whole.trans hc))

theorem deal_cards (n : Nat) (cards : List (Card String)) (names : List String) :
    ((deal (ν := Int) rules n cards names).2 ++
      (deal (ν := Int) rules n cards names).1.flatMap Player.cards).Perm cards := by
  induction names generalizing n cards with
  | nil => simp [deal]
  | cons name names ih =>
    have hrest := ih (n + 1) (restOf rules.deckSize (restOf rules.handSize cards))
    rw [List.perm_iff_count] at hrest ⊢
    intro a
    have h₁ := count_firstOf_add (n := rules.handSize) cards a
    have h₂ := count_firstOf_add (n := rules.deckSize) (restOf rules.handSize cards) a
    have h₃ := hrest a
    simp only [deal, Zone.draw, List.flatMap_cons, Player.cards, Piles.cards, List.count_append,
      Guild.all, List.flatMap_nil, Piles.get, List.count_nil] at h₃ ⊢
    omega

theorem newGame_cards {id : String} {seed : Int} {names : List String} (hshuffle : Permutes shuffle)
    (h : newGame rules shuffle id seed names = .ok s) : s.cards.Perm rules.cards := by
  obtain ⟨-, cards, hs, rfl⟩ := newGame_eq_ok.mp h
  exact (deal_cards 1 cards names).trans (hshuffle _ _ _ _ hs)

end State

/-- Whatever the moves after a deal are, all cards of the catalog are there, once each; a player
owns the cards dealt to the player and the ones that the player took; the common deck is the dealt
one without the taken cards; and who has a card in exile keeps it there. -/
theorem cards_conserved (id : String) (seed : Int) (names : List String)
    {shuffled : List (Card String)} (hd : Distinct rules.cards) (hshuffle : Permutes shuffle)
    (hseats : rules.seats names.length = true) (hs : shuffle seed 0 rules.cards = .ok shuffled) :
    ∃ s₀ : State String Int, newGame rules shuffle id seed names = .ok s₀ ∧
      ∀ steps,
        let s := s₀.run rules shuffle steps
        let taken := s₀.takings rules shuffle steps
        (s.cards.map (·.id)).Perm (rules.cards.map (·.id)) ∧ (s.cards.map (·.id)).Nodup ∧
          List.Forall₂ (fun p q => q.id = p.id ∧ q.cards.Perm (p.cards ++ takenBy p.id taken))
            s₀.players s.players ∧
          s.common = (s₀.common.filter fun c => c ∉ taken.map (·.2)) ∧
          s₀.common.Perm (s.common ++ taken.map (·.2)) ∧
          ∀ later, List.Forall₂ (fun p q => q.id = p.id ∧ p.exile <+: q.exile)
            s.players (s.run rules shuffle later).players := by
  obtain ⟨s₀, hgame⟩ : ∃ s₀ : State String Int, newGame rules shuffle id seed names = .ok s₀ :=
    ⟨_, State.newGame_eq_ok.mpr ⟨hseats, shuffled, hs, rfl⟩⟩
  refine ⟨s₀, hgame, fun steps => ?_⟩
  have hcards := State.newGame_cards hshuffle hgame
  have hrun := State.run_flow (.deal hgame) hcards hd hshuffle steps
  have hwhole := hrun.whole.trans hcards
  refine ⟨hwhole.map _, hd.perm hwhole.symm, hrun.owned.imp fun p q h => ⟨h.id, h.cards⟩,
    hrun.common, hrun.market, fun later => ?_⟩
  have hlater := State.run_flow (Reachable.run (.deal hgame) steps) hwhole hd hshuffle later
  exact hlater.owned.imp fun p q h => ⟨h.id, h.exile⟩

/-- A game of two, shuffled by its seed. -/
theorem cards_conserved_sample :
    Distinct sampleRulebook.cards ∧
      ∃ s₀ : State String Int,
        newGame sampleRulebook Shuffle.seeded "game" 7 ["Ada", "Ben"] = .ok s₀ ∧
          ∀ steps, ((s₀.run sampleRulebook Shuffle.seeded steps).cards.map
            (·.id)).Perm (sampleRulebook.cards.map (·.id)) := by
  obtain ⟨shuffled, hshuffled⟩ : ∃ shuffled, Shuffle.seeded (7 : Int) (0 : Int)
      sampleRulebook.cards = .ok shuffled :=
    exists_seeded (by decide +kernel) (by decide +kernel) _
  obtain ⟨s₀, hgame, hrun⟩ :=
    cards_conserved "game" 7 ["Ada", "Ben"] distinct_sample permutes_seeded (by decide) hshuffled
  exact ⟨distinct_sample, s₀, hgame, fun steps => (hrun steps).1⟩

end GuildCards
