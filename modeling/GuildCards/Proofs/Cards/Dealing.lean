import Mathlib
import GuildCards.Proofs.Cards.Regrouping
import GuildCards.Proofs.Rulebook.Reports

/-!
What a deal leaves where. Whatever the sizes of hands and decks are, the cards lie with the players and
in the common deck in the order in which they were dealt; if they are enough for everybody, nobody
goes short. A rulebook that passes its check has enough for each table that it admits.
-/
namespace GuildCards
open Document

variable {r : Rulebook String} {report : Report} {shuffle : Shuffler String Int}
  {s : State String Int} {cards deck : List (Card String)} {names : List String}
  {n room : Nat}

section Deal

theorem deal_names (n : Nat) (cards : List (Card String)) (names : List String) :
    (deal (ν := Int) r n cards names).1.map (·.name) = names := by
  induction names generalizing n cards with
  | nil => rfl
  | cons name names ih =>
    rw [deal, List.map_cons, ih]

/-- The cards of the players, hand before deck, and then the common deck are the cards in their order. -/
theorem deal_order (n : Nat) (cards : List (Card String)) (names : List String) :
    (deal (ν := Int) r n cards names).1.flatMap (fun p => p.hand ++ p.deck) ++
      (deal (ν := Int) r n cards names).2 = cards := by
  induction names generalizing n cards with
  | nil => rfl
  | cons name names ih =>
    rw [deal, List.flatMap_cons, List.append_assoc, ih, List.append_assoc]
    change firstOf r.handSize cards ++ (firstOf r.deckSize (restOf r.handSize cards) ++
      restOf r.deckSize (restOf r.handSize cards)) = cards
    rw [firstOf_append_restOf, firstOf_append_restOf]

theorem deal_lengths (hhand : 0 ≤ r.handSize) (hdeck : 0 ≤ r.deckSize) (n : Nat)
    (cards : List (Card String)) (names : List String)
    (henough : names.length * (r.handSize + r.deckSize) ≤ cards.length) :
    (∀ p ∈ (deal (ν := Int) r n cards names).1,
      p.hand.length = r.handSize ∧ p.deck.length = r.deckSize) ∧
    ((deal (ν := Int) r n cards names).2.length : Int) =
      cards.length - names.length * (r.handSize + r.deckSize) := by
  induction names generalizing n cards with
  | nil => simp [deal]
  | cons name names ih =>
    rw [List.length_cons, Nat.cast_succ, Int.add_mul, Int.one_mul] at henough ⊢
    have hothers : 0 ≤ (names.length : Int) * (r.handSize + r.deckSize) := by positivity
    have hfirst := length_firstOf hhand cards
    have hrest := length_firstOf_add r.handSize cards
    have hfirst' := length_firstOf hdeck (restOf r.handSize cards)
    have hrest' := length_firstOf_add r.deckSize (restOf r.handSize cards)
    obtain ⟨hplayers, hleft⟩ := ih (n + 1) (restOf r.deckSize (restOf r.handSize cards)) (by omega)
    rw [deal, List.forall_mem_cons]
    refine ⟨⟨⟨?_, ?_⟩, hplayers⟩, hleft.trans ?_⟩
    · change ((firstOf r.handSize cards).length : Int) = r.handSize
      omega
    · change ((firstOf r.deckSize (restOf r.handSize cards)).length : Int) = r.deckSize
      omega
    · omega

end Deal

/-- A deal of a deck to players of the given names that is complete: nobody goes short, and what is left
is the rest of the fifty cards. -/
structure CompleteDeal (r : Rulebook String) (names : List String) (deck : List (Card String))
    (s : State String Int) : Prop where
  ids : s.players.map (·.id) = (List.range' 1 names.length).map fun i => s!"player-{i}"
  distinct : (s.players.map (·.id)).Nodup
  called : s.players.map (·.name) = names
  hands : ∀ p ∈ s.players, p.hand.length = r.handSize
  decks : ∀ p ∈ s.players, p.deck.length = r.deckSize
  order : s.players.flatMap (fun p => p.hand ++ p.deck) ++ s.common = deck
  left : s.common.length = 50 - names.length * (r.handSize + r.deckSize)

theorem Rulebook.Sound.enough (hsound : r.Sound) (hcards : r.cards ≠ []) (hdeck : 0 ≤ r.deckSize)
    (hmax : n ≤ r.maxPlayers) : r.cards.length = 50 ∧ n * (r.handSize + r.deckSize) ≤ 50 := by
  have hcatalog := hsound.catalog.resolve_left hcards
  have hhand := hsound.hand
  refine ⟨hcatalog.length_eq, ?_⟩
  calc (n : Int) * (r.handSize + r.deckSize)
      ≤ r.maxPlayers * (r.handSize + r.deckSize) := by gcongr
    _ ≤ r.cards.length := hcatalog.supply
    _ = 50 := by rw [hcatalog.length_eq, Nat.cast_ofNat]

theorem completeDeal_newGame {id : String} {seed : Int} (hsound : r.Sound) (hcards : r.cards ≠ [])
    (hdeck : 0 ≤ r.deckSize) (hmax : names.length ≤ r.maxPlayers)
    (hshuffled : shuffle seed 0 r.cards = .ok deck) (hperm : deck.Perm r.cards)
    (hgame : newGame r shuffle id seed names = .ok s) : CompleteDeal r names deck s := by
  obtain ⟨hlength, henough⟩ := hsound.enough hcards hdeck hmax
  have hseated := State.seated_newGame hgame
  obtain ⟨-, dealt, hdealt, rfl⟩ := State.newGame_eq_ok.mp hgame
  obtain rfl := Except.ok.inj (hdealt.symm.trans hshuffled)
  rw [← hperm.length_eq] at hlength
  have hhand : 0 ≤ r.handSize := by
    have := hsound.hand
    omega
  obtain ⟨hplayers, hleft⟩ := deal_lengths hhand hdeck 1 dealt names (by omega)
  refine ⟨State.deal_ids 1 dealt names, hseated.distinct, deal_names 1 dealt names,
    fun p hp => (hplayers p hp).1, fun p hp => (hplayers p hp).2, deal_order 1 dealt names, ?_⟩
  rw [hleft, hlength, Nat.cast_ofNat]

theorem seats_of_between (hmin : r.minPlayers ≤ n) (hmax : n ≤ r.maxPlayers) : r.seats n = true := by
  rw [Rulebook.seats, decide_eq_true hmin, decide_eq_true hmax]
  rfl

/-- A game is dealt by each seed that can be written, and by no other. -/
theorem newGame_seeded (id : String) (seed : Int) (hseats : r.seats names.length = true) :
    (Value.int seed).isWritable = true ∧
        (∃ deck s, Shuffle.seeded seed (0 : Int) r.cards = .ok deck ∧ deck.Perm r.cards ∧
          newGame r Shuffle.seeded id seed names = .ok s) ∨
      (Value.int seed).isWritable = false ∧
        newGame r Shuffle.seeded id seed names = .error .tooLongToWrite := by
  cases hseed : (Value.int seed).isWritable with
  | true =>
    have hcount : (Value.int 0).isWritable = true := by decide +kernel
    obtain ⟨deck, hdeck⟩ := exists_seeded hseed hcount r.cards
    exact .inl ⟨rfl, deck, _, hdeck, permutes_seeded _ _ _ _ hdeck,
      State.newGame_eq_ok.mpr ⟨hseats, deck, hdeck, rfl⟩⟩
  | false =>
    refine .inr ⟨rfl, ?_⟩
    unfold newGame
    rw [hseats]
    exact bind_eq_error.mpr (.inl (seeded_eq_error (.inl hseed) _))

/-- A rulebook that passes its check deals a complete game to each table that it admits, by any seed of
no more digits than a text may show: everybody gets a full hand and a full deck off the top of the
shuffled catalog, and the rest is the common deck. -/
theorem nobody_goes_short (hcheck : r.check room = .ok report) (hvalid : report.valid = true)
    (hcards : r.cards ≠ []) (hdeck : 0 ≤ r.deckSize) (hmin : r.minPlayers ≤ names.length)
    (hmax : names.length ≤ r.maxPlayers) (id : String) {seed : Int}
    (hseed : seed.natAbs < 10 ^ Number.digitLimit) :
    ∃ deck s, Shuffle.seeded seed (0 : Int) r.cards = .ok deck ∧ deck.Perm r.cards ∧
      newGame r Shuffle.seeded id seed names = .ok s ∧ CompleteDeal r names deck s := by
  have hsound := (Rulebook.valid_iff_sound hcheck).mp hvalid
  rcases newGame_seeded id seed (seats_of_between hmin hmax) with
    ⟨-, deck, s, hshuffled, hperm, hgame⟩ | ⟨hlong, -⟩
  · exact ⟨deck, s, hshuffled, hperm, hgame,
      completeDeal_newGame hsound hcards hdeck hmax hshuffled hperm hgame⟩
  · rw [isWritable_of_lt hseed] at hlong
    cases hlong

def pairedTable (players : Int) : Rulebook String :=
  { pairedRulebook with maxPlayers := players, sites := [] }

/-- With hands and decks of five the cards are enough for five players, and the check lets them play. -/
theorem exists_check_pairedTable (players : Int) (h : 2 ≤ players ∧ players ≤ 5) :
    ∃ report, (pairedTable players).check ampleRoom = .ok report ∧ report.valid = true := by
  have hsupply : players * (5 + 5) ≤ (pairedRulebook.cards.length : Int) := by
    rw [fullCatalog_paired.length_eq]
    omega
  have hcatalog : (pairedTable players).FullCatalog :=
    ⟨fullCatalog_paired.named, fullCatalog_paired.distinct, fullCatalog_paired.paired, hsupply⟩
  have hid : pairedRulebook.id ≠ "" := by decide
  have hplayers : 1 ≤ pairedRulebook.minPlayers := by decide
  have hhand : 1 ≤ pairedRulebook.handSize := by decide
  have hsound : (pairedTable players).Sound :=
    ⟨hid, ⟨hplayers, h.1⟩, hhand, .inr hcatalog, .inl rfl⟩
  exact hsound.exists_check (.inl rfl)

/-- Four players leave ten of the fifty cards. -/
theorem nobody_goes_short_four :
    let r := pairedTable 4
    let names := ["Ada", "Ben", "Cleo", "Dan"]
    ∃ report, r.check ampleRoom = .ok report ∧ report.valid = true ∧ r.cards ≠ [] ∧ 0 ≤ r.deckSize ∧
      r.minPlayers ≤ names.length ∧ names.length ≤ r.maxPlayers ∧
        (7 : Int).natAbs < 10 ^ Number.digitLimit ∧
        ∃ deck s, newGame r Shuffle.seeded "game" (7 : Int) names = .ok s ∧
          CompleteDeal r names deck s ∧ (s.common.length : Int) = 10 := by
  intro r names
  obtain ⟨report, hcheck, hvalid⟩ := exists_check_pairedTable 4 (by decide)
  have hcards : r.cards ≠ [] := List.cons_ne_nil _ _
  have hmin : r.minPlayers ≤ names.length := by decide
  have hmax : names.length ≤ r.maxPlayers := by decide
  have hseed : (7 : Int).natAbs < 10 ^ Number.digitLimit := by decide +kernel
  obtain ⟨deck, s, -, -, hgame, hdeal⟩ :=
    nobody_goes_short hcheck hvalid hcards (by decide) hmin hmax "game" hseed
  exact ⟨report, hcheck, hvalid, hcards, by decide, hmin, hmax, hseed, deck, s, hgame, hdeal,
    hdeal.left⟩

/-- The same four players are dealt nothing by a seed of too many digits. -/
theorem nothing_dealt :
    let r := pairedTable 4
    let names := ["Ada", "Ben", "Cleo", "Dan"]
    ∃ report, r.check ampleRoom = .ok report ∧ report.valid = true ∧ r.cards ≠ [] ∧ 0 ≤ r.deckSize ∧
      r.minPlayers ≤ names.length ∧ names.length ≤ r.maxPlayers ∧
        newGame r Shuffle.seeded "game" ((10 : Int) ^ 4300) names = .error .tooLongToWrite := by
  intro r names
  obtain ⟨report, hcheck, hvalid⟩ := exists_check_pairedTable 4 (by decide)
  have hmin : r.minPlayers ≤ names.length := by decide
  have hmax : names.length ≤ r.maxPlayers := by decide
  refine ⟨report, hcheck, hvalid, List.cons_ne_nil _ _, by decide, hmin, hmax, ?_⟩
  have hlong : (Value.int ((10 : Int) ^ 4300)).isWritable = false := by decide +kernel
  rcases newGame_seeded (r := r) "game" ((10 : Int) ^ 4300) (seats_of_between hmin hmax) with
    ⟨hseed, -⟩ | ⟨-, herror⟩
  · rw [hlong] at hseed
    cases hseed
  · exact herror

end GuildCards
