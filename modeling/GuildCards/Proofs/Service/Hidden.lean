import Mathlib
import GuildCards.Proofs.Play.Run
import GuildCards.Proofs.Success
import GuildCards.Service
import GuildCards.Store.Memory

/-!
What no client is shown: which cards lie in decks, in exile and below the market, the seed, the number
of shuffles and the history. Two games that differ in nothing else look the same and allow the same
moves, whatever values stand for names and counts.
-/
namespace GuildCards
open Document Effect

/-! ### Lists that are related item by item -/

section Related
variable {α β : Type} {R : α → α → Prop} {as bs : List α}

theorem map_eq_of_related {f : α → β} (h : List.Forall₂ R as bs)
    (hf : ∀ a b, R a b → f a = f b) : as.map f = bs.map f := by
  induction h with
  | nil => rfl
  | cons hab _ ih => rw [List.map_cons, List.map_cons, hf _ _ hab, ih]

theorem any_eq_of_related {test : α → Bool} (h : List.Forall₂ R as bs)
    (htest : ∀ a b, R a b → test a = test b) : as.any test = bs.any test := by
  have hmap := map_eq_of_related h htest
  rw [← Function.id_comp test, ← List.any_map, ← List.any_map, hmap]

theorem find?_related {test : α → Bool} (h : List.Forall₂ R as bs)
    (htest : ∀ a b, R a b → test a = test b) :
    Option.Rel R (as.find? test) (bs.find? test) := by
  induction h with
  | nil => exact .none
  | @cons a b as bs hab _ ih =>
    rw [List.find?_cons, List.find?_cons, ← htest a b hab]
    cases test a with
    | true => exact .some hab
    | false => exact ih

theorem getElem?_related (h : List.Forall₂ R as bs) (i : Nat) : Option.Rel R as[i]? bs[i]? := by
  induction h generalizing i with
  | nil => exact .none
  | cons hab _ ih =>
    cases i with
    | zero => exact .some hab
    | succ i => exact ih i

theorem atSeat?_related (h : List.Forall₂ R as bs) (seat : Int) :
    Option.Rel R (atSeat? as seat) (atSeat? bs seat) := by
  unfold atSeat?
  rw [h.length_eq]
  split_ifs
  · exact getElem?_related h _
  · exact getElem?_related h _
  · exact .none

end Related

variable {ι ν : Type}

/-- The same player with other cards in the deck and in exile, as many as before. -/
inductive Player.Alike (p : Player ι ν) : Player ι ν → Prop
  | mk {deck exile : Zone ι} (hdeck : deck.length = p.deck.length)
      (hexile : exile.length = p.exile.length) : p.Alike { p with deck, exile }

/-- The same game to the eye, with the top `n` cards of the common deck in sight: there may be other
cards in decks, in exile and below those on top, as many as before, another seed, another number of
shuffles and another history. -/
inductive State.Alike (n : Nat) (s : State ι ν) : State ι ν → Prop
  | mk {players : List (Player ι ν)} {common : Zone ι} {seed shuffles : ν} {history : List Move}
      (hplayers : List.Forall₂ Player.Alike s.players players)
      (hcount : common.length = s.common.length) (htop : common.take n = s.common.take n) :
      s.Alike n { s with players, common, seed, shuffles, history }

variable {rules : Rulebook ι} {p q : Player ι ν} {s t : State ι ν} {n : Nat}

theorem Player.Alike.id_eq (h : p.Alike q) : p.id = q.id := by
  cases h
  rfl

namespace State.Alike

theorem players_alike (h : s.Alike n t) : List.Forall₂ Player.Alike s.players t.players := by
  obtain ⟨hplayers, -, -⟩ := h
  exact hplayers

theorem isEmpty_eq (h : s.Alike n t) : s.players.isEmpty = t.players.isEmpty := by
  rw [Bool.eq_iff_iff, List.isEmpty_iff_length_eq_zero, List.isEmpty_iff_length_eq_zero,
    h.players_alike.length_eq]

theorem player?_alike [Label ι] (h : s.Alike n t) (id : Value) :
    Option.Rel Player.Alike (s.player? id) (t.player? id) :=
  find?_related h.players_alike fun _ _ hpq => by rw [hpq.id_eq]

theorem canPlayCard_eq [Label ι] (h : s.Alike n t) (player card : Value) :
    s.canPlayCard player card = t.canPlayCard player card := by
  unfold canPlayCard
  have hrel := h.player?_alike player
  generalize s.player? player = a, t.player? player = b at hrel ⊢
  cases hrel with
  | none => rfl
  | some hpq =>
    cases hpq
    rfl

theorem playableCards_eq [Label ι] (h : s.Alike n t) (player : Value) :
    s.playableCards player = t.playableCards player := by
  simp only [playableCards, h.canPlayCard_eq]
  have hrel := h.player?_alike player
  generalize s.player? player = a, t.player? player = b at hrel ⊢
  cases hrel with
  | none => rfl
  | some hpq =>
    cases hpq
    rfl

theorem current_alike [Amount ν] (h : s.Alike n t) :
    (∃ f, s.current = .error f ∧ t.current = .error f) ∨
      ∃ p q, s.current = .ok p ∧ t.current = .ok q ∧ p.Alike q := by
  have hseat : s.seat = t.seat := by
    cases h
    rfl
  unfold current
  rw [hseat]
  cases Amount.toPlace t.seat with
  | error f => exact .inl ⟨f, rfl, rfl⟩
  | ok seat =>
    simp only [ok_bind]
    have hrel := atSeat?_related h.players_alike seat
    generalize atSeat? s.players seat = a, atSeat? t.players seat = b at hrel ⊢
    cases hrel with
    | none => exact .inl ⟨_, rfl, rfl⟩
    | some hpq => exact .inr ⟨_, _, rfl, rfl, hpq⟩

theorem market_eq [Amount ν] (hsize : Amount.toCut s.marketSize = .ok (some (n : Int)))
    (h : s.Alike n t) : s.market = t.market := by
  obtain ⟨-, -, htop⟩ := h
  simp only [market, hsize, ok_bind, firstOf, Int.natCast_nonneg, if_true, Int.toNat_natCast, htop]

end State.Alike

theorem Player.Alike.canPay_eq [Amount ν] (h : p.Alike q) (c : Cost) :
    p.canPay c = q.canPay c := by
  cases h
  rfl

variable [Label ι] [Amount ν]

/-! ### The list of legal moves -/

namespace Player.Alike

theorem handMoves_eq (h : p.Alike q) (c : Card ι) :
    State.handMoves p c = State.handMoves q c := by
  cases h
  rfl

/-- A draw names no card, so only the number of cards matters to it. -/
theorem drawing_eq (h : p.Alike q) :
    State.whilePositive p.counters.draw ((p.deck ++ p.discard).take 1)
        (fun _ => .plain .draw p.id) =
      State.whilePositive q.counters.draw ((q.deck ++ q.discard).take 1)
        fun _ => .plain .draw q.id := by
  obtain ⟨hdeck, -⟩ := h
  simp only [State.whilePositive, List.map_const', List.length_take, List.length_append, hdeck]

end Player.Alike

namespace State.Alike

theorem canBuildOn_eq (h : s.Alike n t) (player : Value) (x : Spot ι ν) :
    s.canBuildOn player x = t.canBuildOn player x := by
  have hbuilt : (s.players.any fun p => p.outposts.any (Datum.same · x.id)) =
      t.players.any fun p => p.outposts.any (Datum.same · x.id) := by
    refine any_eq_of_related h.players_alike fun p q hpq => ?_
    cases hpq
    rfl
  simp only [canBuildOn, hbuilt]

theorem movesOn_eq (h : s.Alike n t) (hpq : p.Alike q) (x : Spot ι ν) :
    s.movesOn p x = t.movesOn q x := by
  have hbuild : s.canBuildOn = t.canBuildOn := funext₂ h.canBuildOn_eq
  unfold movesOn spotMove
  rw [hbuild]
  cases h
  cases hpq
  rfl

theorem cardMoves_eq (hsize : Amount.toCut s.marketSize = .ok (some (n : Int))) (h : s.Alike n t)
    (hpq : p.Alike q) : s.cardMoves p = t.cardMoves q := by
  have hhand : p.hand.mapM (handMoves p) = p.hand.mapM (handMoves q) :=
    mapM_congr fun c _ => hpq.handMoves_eq c
  simp only [cardMoves, hpq.drawing_eq, h.market_eq hsize, hhand]
  cases hpq
  rfl

theorem expansions_eq (h : s.Alike n t) (hpq : p.Alike q) :
    s.expansions rules p = t.expansions rules q := by
  simp only [expansions, h.playableCards_eq]
  cases h
  cases hpq
  rfl

theorem movesOf_eq (hsize : Amount.toCut s.marketSize = .ok (some (n : Int))) (h : s.Alike n t)
    (hpq : p.Alike q) : s.movesOf rules p = t.movesOf rules q := by
  have hspots : s.spots.mapM (s.movesOn p) = s.spots.mapM (t.movesOn q) :=
    mapM_congr fun x _ => h.movesOn_eq hpq x
  simp only [movesOf, spotMoves, hspots, h.expansions_eq hpq, h.cardMoves_eq hsize hpq,
    conditionalAnswers, hpq.canPay_eq]
  cases h
  cases hpq
  rfl

theorem legalMoves_eq (hsize : Amount.toCut s.marketSize = .ok (some (n : Int)))
    (h : s.Alike n t) : s.legalMoves rules = t.legalMoves rules := by
  have hphase : s.phase = t.phase := by
    cases h
    rfl
  unfold legalMoves
  rw [hphase, h.isEmpty_eq]
  obtain ⟨f, hs, ht⟩ | ⟨p, q, hs, ht, hpq⟩ := h.current_alike
  · rw [hs, ht]
    rfl
  · rw [hs, ht, ok_bind, ok_bind, h.movesOf_eq hsize hpq, hpq.id_eq]

end State.Alike

/-! ### The documents -/

theorem Player.Alike.playerView_eq (h : p.Alike q) (current : Value) :
    Service.playerView current p = Service.playerView current q := by
  obtain ⟨hdeck, hexile⟩ := h
  simp only [Service.playerView, Service.count, hdeck, hexile]

namespace State.Alike

theorem currentId_eq (h : s.Alike n t) : Service.currentId s = Service.currentId t := by
  unfold Service.currentId
  rw [h.isEmpty_eq]
  obtain ⟨f, hs, ht⟩ | ⟨p, q, hs, ht, hpq⟩ := h.current_alike
  · rw [hs, ht]
  · rw [hs, ht, ok_bind, ok_bind, hpq.id_eq]

theorem standings_eq (h : s.Alike n t) : s.standings = t.standings := by
  have hrows : s.players.map s.standingOf = t.players.map t.standingOf := by
    have hsame : s.players.map s.standingOf = t.players.map s.standingOf := by
      refine map_eq_of_related h.players_alike fun p q hpq => ?_
      cases hpq
      rfl
    rw [hsame]
    cases h
    rfl
  simp only [standings, hrows]

theorem gameView_eq (hsize : Amount.toCut s.marketSize = .ok (some (n : Int))) (h : s.Alike n t) :
    Service.gameView rules s = Service.gameView rules t := by
  have hplayers (current : Value) : s.players.mapM (Service.playerView current) =
      t.players.mapM (Service.playerView current) :=
    mapM_eq_of_forall₂ (h.players_alike.imp fun p q hpq => hpq.playerView_eq current)
  simp only [Service.gameView, Service.listView, h.currentId_eq, hplayers, h.market_eq hsize,
    h.standings_eq]
  obtain ⟨-, hcount, -⟩ := h
  simp only [Service.count, hcount]
  rfl

theorem legalView_eq (hsize : Amount.toCut s.marketSize = .ok (some (n : Int))) (h : s.Alike n t)
    (id : String) : Service.legalView rules id s = Service.legalView rules id t := by
  simp only [Service.legalView, h.legalMoves_eq hsize, h.currentId_eq]

end State.Alike

/-- Clients learn nothing of hidden cards. Two games that are alike, where the size of the market is the
number of cards in sight, have the same view and the same list of legal moves, so both requests that
look at a game are answered alike, whichever of the two is kept under the id. -/
theorem hidden_cards_unseen (hsize : Amount.toCut s.marketSize = .ok (some (n : Int)))
    (h : s.Alike n t) :
    Service.gameView rules s = Service.gameView rules t ∧
      s.legalMoves rules = t.legalMoves rules ∧
      ∀ {σ : Type} [Store σ ι ν] (x y : Session σ ι) (id : String),
        x.rules = rules → y.rules = rules → x.game id = .ok s → y.game id = .ok t →
          Service.get x id = Service.get y id ∧ Service.legalMoves x id = Service.legalMoves y id := by
  refine ⟨h.gameView_eq hsize, h.legalMoves_eq hsize, ?_⟩
  rintro σ _ x y id rfl hrules hx hy
  simp only [Service.get, Service.legalMoves, hx, hy, hrules, h.gameView_eq hsize,
    h.legalView_eq hsize, and_self]

def narrowRulebook : Rulebook String :=
  { sampleRulebook with handSize := 2, deckSize := 1, marketSize := 1 }

/-- The same table after other cards have come to lie where nobody looks. -/
def State.relaid (s : State String Int) : State String Int :=
  { s with
    players := s.players.map fun p => { p with deck := s.common.drop 3 }
    common := s.common.take 1 ++ (s.common.drop 1).reverse
    seed := 8, shuffles := 5, history := [.plain .endTurn "player-2"] }

/-- Both games are kept in memory, each by a session of its own. -/
theorem hidden_cards_unseen_sample :
    ∃ s₀ : State String Int,
      newGame narrowRulebook unshuffled "game" 7 ["Ada", "Ben"] = .ok s₀ ∧
        let s := s₀.run narrowRulebook unshuffled [.move (.plain .endTurn "player-1")]
        let kept (s : State String Int) : Session (MemoryStore String Int) String :=
          { rules := narrowRulebook, store := ⟨[("game", s)]⟩
            supply := ⟨fun _ => .ofInt 0, fun _ => "game", fun _ => 7⟩ }
        s.Alike 1 s.relaid ∧ s.common ≠ s.relaid.common ∧
          s.players.map (·.deck) ≠ s.relaid.players.map (·.deck) ∧
          (∃ view, Service.gameView narrowRulebook s = .ok view ∧
            Service.gameView narrowRulebook s.relaid = .ok view) ∧
          Service.get (kept s) "game" = Service.get (kept s.relaid) "game" ∧
          Service.legalMoves (kept s) "game" = Service.legalMoves (kept s.relaid) "game" := by
  obtain ⟨s₀, h⟩ : ∃ s₀ : State String Int,
      newGame narrowRulebook unshuffled "game" 7 ["Ada", "Ben"] = .ok s₀ := ⟨_, rfl⟩
  let s := s₀.run narrowRulebook unshuffled [.move (.plain .endTurn "player-1")]
  have halike : s.Alike 1 s.relaid := by
    subst s
    obtain rfl := Except.ok.inj h
    exact .mk (.cons (.mk rfl rfl) (.cons (.mk rfl rfl) .nil)) rfl rfl
  have hstate : s.marketSize = 1 ∧ s.common ≠ s.relaid.common ∧
      s.players.map (·.deck) ≠ s.relaid.players.map (·.deck) ∧
        (Service.gameView narrowRulebook s).isOk = true := by
    subst s
    obtain rfl := Except.ok.inj h
    decide +kernel
  obtain ⟨hone, hcommon, hdecks, hshown⟩ := hstate
  have hsize : Amount.toCut s.marketSize = .ok (some ((1 : Nat) : Int)) := by
    rw [hone]
    rfl
  have hunseen : Service.gameView narrowRulebook s = _ ∧ _ := hidden_cards_unseen hsize halike
  obtain ⟨hview, -, hanswers⟩ := hunseen
  cases hs : Service.gameView narrowRulebook s with
  | error f =>
    rw [hs] at hshown
    cases hshown
  | ok view =>
    refine ⟨s₀, h, halike, hcommon, hdecks, ⟨view, hs, hview ▸ hs⟩, ?_⟩
    exact hanswers _ _ "game" rfl rfl rfl rfl

end GuildCards
