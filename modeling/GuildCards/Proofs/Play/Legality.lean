import Mathlib
import GuildCards.Proofs.Board.Spots
import GuildCards.Proofs.Cards.Conservation
import GuildCards.Proofs.Effect.WellFormed
import GuildCards.Proofs.Play.Listed
import GuildCards.Proofs.Play.Questions
import GuildCards.Proofs.State.Stored

/-!
The legal moves are the moves that are accepted. A move is accepted just when the list has one of
its kind and player that agrees with it on the fields that its kind reads; so every listed move is
accepted, also after it has been written and read again.
-/
namespace GuildCards
open Document Effect

/-- Do two values name the same, but for blanks around the name and for case? -/
def SameName (v w : Value) : Prop := ∃ a b, v = .text a ∧ w = .text b ∧ nameKey a = nameKey b

theorem bool_ne_null (b : Bool) : Value.bool b ≠ .null := by
  intro h
  cases h

theorem sameName_text {a : String} {w : Value} :
    SameName (.text a) w ↔ ∃ b, w = .text b ∧ nameKey a = nameKey b := by
  constructor
  · rintro ⟨_, b, ⟨⟩, hw, hkey⟩
    exact ⟨b, hw, hkey⟩
  · rintro ⟨b, hw, hkey⟩
    exact ⟨a, b, rfl, hw, hkey⟩

/-- A move agrees with another on what their kind reads in a state. -/
def Move.AgreesOn (s : State String Int) (g m : Move) : Prop :=
  g.kind = m.kind ∧ g.player = m.player ∧
    match m.kind with
    | .expand | .take | .discard | .exile | .bury | .revive => g.card = m.card
    | .placeArmy | .fight | .buildOutpost => g.spot = m.spot
    | .resolveChoice => g.intent.getD 0 = m.intent.getD 0 ∧ SameName g.choice m.choice
    | .resolveConditional =>
      m.accept ≠ .null ∧ g.accept = m.accept ∧
        ∀ c, m.accept = .bool true → s.conditionals.head? = some c → c.nested ≠ [] →
          SameName g.choice m.choice
    | .consolidate | .endTurn | .draw => True

variable {rules : Rulebook String} {shuffle : Shuffler String Int} {s : State String Int}
  {p : Player String Int} {r : Played String Int} {g m : Move} {card : Value} {spot : Value}

/-- A move shuffles if it consolidates, or if it draws from an empty deck. -/
def Move.Shuffles (s : State String Int) (m : Move) : Prop :=
  m.kind = .consolidate ∨ m.kind = .draw ∧ ∀ p, s.current = .ok p → p.deck = []

/-- What a legal move still needs: that no number that it writes has too many digits. It tells the number
of its spot; and a shuffle is labelled with the seed of the game and with how many there were. -/
structure Move.Feasible (s : State String Int) (m : Move) : Prop where
  spot : m.kind = .placeArmy ∨ m.kind = .fight ∨ m.kind = .buildOutpost →
    ∀ n, m.spot = .int n → n.natAbs < 10 ^ Number.digitLimit
  label : m.Shuffles s →
    s.seed.natAbs < 10 ^ Number.digitLimit ∧ s.shuffles.natAbs < 10 ^ Number.digitLimit

/-- What legality needs of a state: players in their seats, and cards and options with names. -/
structure State.Playable (s : State String Int) : Prop where
  seated : s.Seated
  ids : ∀ c ∈ s.cards, c.id ≠ ""
  options : ∀ c ∈ s.choices, ∀ b ∈ c.options, nameKey b.text ≠ ""
  nested : ∀ c ∈ s.conditionals, ∀ b ∈ c.nested, nameKey b.text ≠ ""

theorem Move.Feasible.exists_seeded (hm : m.Feasible s) (hshuffles : m.Shuffles s)
    (cards : List (Card String)) :
    ∃ shuffled, Shuffle.seeded s.seed s.shuffles cards = .ok shuffled :=
  GuildCards.exists_seeded (isWritable_of_lt (hm.label hshuffles).1)
    (isWritable_of_lt (hm.label hshuffles).2) cards

namespace State

theorem named_eq_some {z : Zone String} {c : Card String} (hz : ∀ d ∈ z, d.id ≠ "")
    (h : named z card = some c) : c ∈ z ∧ card = .text c.id := by
  obtain ⟨hmem, hid⟩ := Zone.named?_eq_some h
  refine ⟨hmem, ?_⟩
  split_ifs at hid with ht
  · exact hid
  · exact absurd (Value.text.inj hid).symm (hz c hmem)

theorem exists_named {z : Zone String} {c : Card String} (hc : c ∈ z) :
    ∃ d, Zone.named? z (.text c.id) = some d ∧ d.id = c.id := by
  cases hf : Zone.named? z (.text c.id) with
  | none =>
    have := List.find?_eq_none.mp hf c hc
    simp at this
  | some d => exact ⟨d, rfl, (Value.text.inj (Zone.named?_eq_some hf).2).symm⟩

theorem named_text {z : Zone String} {name : String} (h : name ≠ "") :
    named z (.text name) = Zone.named? z (.text name) := by
  have ht : (Value.text name).truthy = true := by simpa [Value.truthy] using h
  rw [named, if_pos ht]

theorem exists_current_turnPassed (hp : s.players ≠ []) : ∃ q, s.turnPassed.current = .ok q := by
  have hpos : 0 < s.players.length := List.length_pos_iff.mpr hp
  have hseat : s.turnPassed.seat = (s.seat + 1) % s.players.length :=
    Int.fmod_eq_emod_of_nonneg _ (by omega)
  have hplayers : s.turnPassed.players = s.players := rfl
  have hnn : 0 ≤ (s.seat + 1) % (s.players.length : Int) := Int.emod_nonneg _ (by omega)
  have hlt : (s.seat + 1) % (s.players.length : Int) < s.players.length :=
    Int.emod_lt_of_pos _ (by omega)
  have hidx : s.turnPassed.seat.toNat < s.turnPassed.players.length := by
    rw [hseat, hplayers]
    omega
  refine ⟨s.turnPassed.players[s.turnPassed.seat.toNat], current_eq_ok.mpr ?_⟩
  rw [atSeat?, if_pos (hseat ▸ hnn), List.getElem?_eq_getElem hidx]

theorem namedSpot_int {n : Int} {x : Spot String Int} :
    s.namedSpot (.int n) = .ok x ↔ s.spot? (.int n) = some x := by
  rw [namedSpot_eq_ok]
  exact and_iff_right rfl

theorem spot?_eq_some {n : Int} {x : Spot String Int} (h : s.spot? (.int n) = some x) :
    x ∈ s.spots ∧ x.id = n := by
  have hid : Datum.is x.id (.int n) = true := by simpa using List.find?_some h
  exact ⟨List.mem_of_find?_eq_some h, by simpa using hid⟩

theorem namedSpot_wellTyped {x : Spot String Int} (hm : m.WellTyped)
    (h : s.namedSpot m.spot = .ok x) :
    x ∈ s.spots ∧ m.spot = .int x.id ∧ s.spot? (.int x.id) = some x := by
  obtain ⟨hnull, hx⟩ := namedSpot_eq_ok.mp h
  rcases hm.spot with hs | ⟨n, hs⟩ <;> rw [hs] at hnull hx
  · cases hnull
  · obtain ⟨hmem, rfl⟩ := spot?_eq_some hx
    exact ⟨hmem, hs, hx⟩

theorem mem_playableCards (hs : s.Seated) (hp : p ∈ s.players) {id : String} :
    id ∈ s.playableCards (.text p.id) ↔
      id ∈ p.hand.map (·.id) ∧ s.canPlayCard (.text p.id) (.text id) = true := by
  rw [playableCards, hs.player?_id hp]
  exact List.mem_filter

theorem exists_tier {n : Nat} (h : n < pileLimit) :
    ∃ t, Tier.at? ((n + 1 : Nat) : Int) = some t := by
  have hlimit : pileLimit = 5 := rfl
  unfold Tier.at?
  split_ifs with h₁ h₂ h₃
  · exact ⟨_, rfl⟩
  · exact ⟨_, rfl⟩
  · exact ⟨_, rfl⟩
  · omega

theorem exists_mayExpand {id : String} (hs : s.Seated) (hp : p ∈ s.players)
    (hhand : ∀ c ∈ p.hand, c.id ≠ "") (hd : p.counters.discard ≤ 0)
    (hq : rules.strict = false ∨ s.awaiting? = none) (hc : id ∈ s.playableCards (.text p.id)) :
    ∃ t c, s.MayExpand rules p (.text id) c t := by
  obtain ⟨hmem, hfits⟩ := (mem_playableCards hs hp).mp hc
  obtain ⟨c, hch, rfl⟩ := List.mem_map.mp hmem
  -- the hand is searched by name, so what is found is a card of that name, if not the listed one
  obtain ⟨d, hd', hid⟩ := exists_named hch
  have hadmits : (p.piles.get d.guild).admits d.color = true := by
    simpa [canPlayCard, hs.player?_id hp, hd'] using hfits
  simp only [Pile.admits, Bool.and_eq_true, decide_eq_true_eq] at hadmits
  obtain ⟨t, ht⟩ := exists_tier hadmits.1
  rw [← hid] at hfits ⊢
  have hne : d.id ≠ "" := hid ▸ hhand c hch
  refine ⟨t, d, by simpa [Value.truthy] using hne, ?_, hd, hq, hfits, ?_⟩
  · rwa [named_text hne, hid]
  · rwa [List.length_append, List.length_singleton]

theorem Playable.hand (hs : s.Playable) (hp : p ∈ s.players) : ∀ c ∈ p.hand, c.id ≠ "" :=
  fun c hc => hs.ids c ((p.hand_sublist.trans (cards_sublist hp)).subset hc)

theorem Playable.discard (hs : s.Playable) (hp : p ∈ s.players) :
    ∀ c ∈ p.discard, c.id ≠ "" :=
  fun c hc => hs.ids c ((p.discard_sublist.trans (cards_sublist hp)).subset hc)

theorem accept_eq {b : Bool} (hm : m.WellTyped) (hgiven : m.accept.isNull = false)
    (h : m.accept.truthy = b) : m.accept = .bool b := by
  rcases hm.accept with ha | ⟨b', ha⟩ <;> rw [ha] at hgiven h ⊢
  · cases hgiven
  · exact congrArg Value.bool h

theorem listed_onSpot {k : MoveKind} {x : Spot String Int} {judge : Value → Spot String Int → Bool}
    (hm : m.WellTyped) (hx : s.namedSpot m.spot = .ok x) (hj : judge (.text p.id) x = true)
    (hk : (k = .placeArmy ∧ 0 < p.armies ∧ judge = s.canPlaceOn) ∨
      (k = .fight ∧ p.Ready .fight ∧ judge = s.canAttack) ∨
      (k = .buildOutpost ∧ p.Ready .buildOutpost ∧ judge = s.canBuildOn)) :
    Listed rules s p (.onSpot k p.id x.id) ∧ m.spot = .int x.id := by
  obtain ⟨hmem, hid, hfind⟩ := namedSpot_wellTyped hm hx
  exact ⟨.onSpot hk hmem (by simpa [onSpot, hfind] using hj), hid⟩

theorem exists_listed_choice (hs : s.Playable) (hk : m.kind = .resolveChoice)
    (hplayer : Value.text p.id = m.player)
    (h : s.answerChoice p (m.intent.getD 0) m.choice = .ok r) :
    ∃ g, Listed rules s p g ∧ g.AgreesOn s m := by
  unfold Move.AgreesOn
  rw [hk]
  obtain ⟨c, name, b, hplace, hc, hname, hb, -⟩ := answerChoice_eq_ok.mp h
  have hkey := nameKey_of_find? hb
  have hmem := List.mem_of_find?_eq_some hb
  refine ⟨_, .choose hc hmem, rfl, hplayer, Int.toNat_of_nonneg hplace, ?_⟩
  -- an answer that names nothing finds nothing, since no option has the empty name
  rcases choiceText_eq_ok.mp hname with hchoice | ⟨-, -, rfl⟩
  · exact ⟨_, _, rfl, hchoice, hkey⟩
  · exact absurd (hkey.trans nameKey_empty) (hs.options c (List.mem_of_getElem? hc) b hmem)

theorem exists_listed_answer (hm : m.WellTyped) (hk : m.kind = .resolveConditional)
    (hplayer : Value.text p.id = m.player) (hgiven : m.accept.isNull = false)
    (h : s.answerConditional p m.accept.truthy m.choice = .ok r) :
    ∃ g, Listed rules s p g ∧ g.AgreesOn s m := by
  unfold Move.AgreesOn
  rw [hk]
  obtain ⟨c, hchoices, hfront, hnone, ⟨haccept, -⟩ | ⟨haccept, b, hb, hpay, -⟩⟩ :=
    answerConditional_eq_ok.mp h
  · rw [accept_eq hm hgiven haccept]
    refine ⟨_, .decline hchoices hfront hnone, rfl, hplayer, bool_ne_null false, rfl, ?_⟩
    intro c' ht
    cases ht
  · rw [accept_eq hm hgiven haccept]
    obtain ⟨hnil, -⟩ | ⟨-, name, hname, -, hfind⟩ := hb
    · refine ⟨_, .accept hchoices hfront hnone hnil hpay, rfl, hplayer, bool_ne_null true, rfl, ?_⟩
      intro c' _ hc' hne
      rw [hfront] at hc'
      exact absurd (Option.some.inj hc' ▸ hnil) hne
    · refine ⟨_, .acceptOne hchoices hfront hnone (List.mem_of_find?_eq_some hfind) hpay, rfl,
        hplayer, bool_ne_null true, rfl, ?_⟩
      exact fun _ _ _ _ => ⟨_, _, rfl, hname, nameKey_of_find? hfind⟩

theorem exists_listed (hs : s.Playable) (hm : m.WellTyped) (hp : s.MayMove m p)
    (h : s.perform rules shuffle p m = .ok r) :
    ∃ g, Listed rules s p g ∧ g.AgreesOn s m := by
  have hready : p.Ready m.kind := hp.credit
  have hplayer : Value.text p.id = m.player := hp.named.symm
  have hpmem := hs.seated.mem hp.current
  have hhand := hs.hand hpmem
  have hdiscard := hs.discard hpmem
  unfold perform at h
  unfold Move.AgreesOn
  cases hk : m.kind <;> rw [hk] at h hready <;> simp only [] at h ⊢
  case expand =>
    obtain ⟨c, t, hc, -⟩ := expand_eq_ok.mp h
    obtain ⟨hmem, hid⟩ := named_eq_some hhand hc.found
    refine ⟨_, .expand hc.owesNothing hc.answered ?_, rfl, hplayer, hid.symm⟩
    rw [mem_playableCards hs.seated hpmem]
    exact ⟨List.mem_map_of_mem hmem, hc.fits⟩
  case consolidate => exact ⟨_, .ending (.inl rfl), rfl, hplayer, trivial⟩
  case endTurn => exact ⟨_, .ending (.inr rfl), rfl, hplayer, trivial⟩
  case draw =>
    refine ⟨_, .draw hready ?_, rfl, hplayer, trivial⟩
    rcases draw_eq_ok.mp h with ⟨hd, -⟩ | ⟨-, hd, -⟩ <;> simp [hd]
  case take =>
    obtain ⟨c, hc, -⟩ := take_eq_ok.mp h
    obtain ⟨hmem, hid⟩ := Zone.named?_eq_some hc
    exact ⟨_, .take hready hmem, rfl, hplayer, hid.symm⟩
  case discard =>
    obtain ⟨c, hc, -⟩ := discard_eq_ok.mp h
    obtain ⟨hmem, hid⟩ := named_eq_some hhand hc
    exact ⟨_, .ofHand (by simp [handKinds]) hready hmem, rfl, hplayer, hid.symm⟩
  case exile =>
    obtain ⟨c, hc, -⟩ := exile_eq_ok.mp h
    obtain ⟨hmem, hid⟩ := named_eq_some hhand hc
    exact ⟨_, .ofHand (by simp [handKinds]) hready hmem, rfl, hplayer, hid.symm⟩
  case bury =>
    obtain ⟨c, hc, -⟩ := bury_eq_ok.mp h
    obtain ⟨hmem, hid⟩ := named_eq_some hhand hc
    exact ⟨_, .ofHand (by simp [handKinds]) hready hmem, rfl, hplayer, hid.symm⟩
  case revive =>
    obtain ⟨c, hc, -⟩ := revive_eq_ok.mp h
    obtain ⟨hmem, hid⟩ := named_eq_some hdiscard hc
    exact ⟨_, .revive hready hmem, rfl, hplayer, hid.symm⟩
  case fight =>
    obtain ⟨x, hx, hj, -⟩ := fight_eq_ok.mp h
    obtain ⟨hlisted, hid⟩ := listed_onSpot hm hx hj (.inr (.inl ⟨rfl, hready, rfl⟩))
    exact ⟨_, hlisted, rfl, hplayer, hid.symm⟩
  case buildOutpost =>
    obtain ⟨x, hx, hj, -⟩ := buildOutpost_eq_ok.mp h
    obtain ⟨hlisted, hid⟩ := listed_onSpot hm hx hj (.inr (.inr ⟨rfl, hready, rfl⟩))
    exact ⟨_, hlisted, rfl, hplayer, hid.symm⟩
  case placeArmy =>
    obtain ⟨x, ha, hx, hj, -⟩ := placeArmy_eq_ok.mp h
    obtain ⟨hlisted, hid⟩ := listed_onSpot hm hx hj (.inl ⟨rfl, ha, rfl⟩)
    exact ⟨_, hlisted, rfl, hplayer, hid.symm⟩
  case resolveChoice =>
    have hanswer : ∃ g, Listed rules s p g ∧ g.AgreesOn s m := exists_listed_choice hs hk hplayer h
    unfold Move.AgreesOn at hanswer
    rwa [hk] at hanswer
  case resolveConditional =>
    obtain ⟨hgiven, h⟩ := need_bind_eq_ok.mp h
    have hanswer : ∃ g, Listed rules s p g ∧ g.AgreesOn s m :=
      exists_listed_answer hm hk hplayer hgiven h
    unfold Move.AgreesOn at hanswer
    rwa [hk] at hanswer

theorem feasible_of_perform (hm : m.WellTyped) (hp : atSeat? s.players s.seat = some p)
    (h : s.perform rules Shuffle.seeded p m = .ok r) : m.Feasible s where
  spot := by
    have hdigits {x : Spot String Int} (hx : s.namedSpot m.spot = .ok x)
        (hlong : (Value.int x.id).isWritable = true) (n : Int) (hn : m.spot = .int n) :
        n.natAbs < 10 ^ Number.digitLimit := by
      obtain ⟨-, hid, -⟩ := namedSpot_wellTyped hm hx
      obtain rfl := Value.int.inj (hid.symm.trans hn)
      exact isWritable_int.mp hlong
    rintro (hk | hk | hk) <;> simp only [perform, hk] at h
    · obtain ⟨x, -, hx, -, hlong, -⟩ := placeArmy_eq_ok.mp h
      exact hdigits hx hlong
    · obtain ⟨x, hx, -, hlong, -⟩ := fight_eq_ok.mp h
      exact hdigits hx hlong
    · obtain ⟨x, hx, -, hlong, -⟩ := buildOutpost_eq_ok.mp h
      exact hdigits hx hlong
  label := by
    rintro (hk | ⟨hk, hdeck⟩) <;> simp only [perform, hk] at h
    · obtain ⟨cards, q, hshuffled, -⟩ := consolidate_eq_ok.mp h
      exact digits_of_seeded hshuffled
    · obtain ⟨hcards, -⟩ | ⟨-, -, cards, hshuffled, -⟩ := draw_eq_ok.mp h
      · exact absurd (hdeck p (current_eq_ok.mpr hp)) hcards
      · exact digits_of_seeded hshuffled

theorem exists_answered {c : Conditional} {b : Bool} (haccept : m.accept = .bool b)
    (hchoices : s.choices = []) (hfront : s.conditionals.head? = some c) (hnone : s.deferred = none)
    (h : b = true → ∃ x, c.Grants m.choice x ∧ p.affords c.cost = true) :
    ∃ r, (do
      need (m.accept.isNull = false) .noAnswer
      s.answerConditional p m.accept.truthy m.choice) = .ok r := by
  simp only [need_bind_eq_ok, haccept]
  cases b with
  | false =>
    exact ⟨_, rfl, answerConditional_eq_ok.mpr ⟨c, hchoices, hfront, hnone, .inl ⟨rfl, rfl⟩⟩⟩
  | true =>
    obtain ⟨x, hx, hpay⟩ := h rfl
    exact ⟨_, rfl, answerConditional_eq_ok.mpr
      ⟨c, hchoices, hfront, hnone, .inr ⟨rfl, x, hx, hpay, rfl⟩⟩⟩

theorem players_withPlayer_ne_nil (hp : p ∈ s.players) (q : Player String Int) :
    (s.withPlayer q).players ≠ [] := by
  rw [players_withPlayer, ne_eq, List.map_eq_nil_iff]
  exact List.ne_nil_of_mem hp

theorem exists_consolidated
    (hs : ∀ cards, ∃ shuffled, shuffle s.seed s.shuffles cards = .ok shuffled)
    (hp : p ∈ s.players) : ∃ r, s.consolidate rules shuffle p = .ok r := by
  obtain ⟨cards, hcards⟩ := hs
    (p.discard ++ (p.hand ++ Guild.all.flatMap fun g => Pile.aboveBase (p.piles.get g)))
  let renewed : Player String Int := { p with
    hand := firstOf rules.handSize (p.deck ++ cards)
    deck := restOf rules.handSize (p.deck ++ cards), discard := []
    piles := p.piles.map Pile.base, counters := p.counters.endTurn }
  have hplayers : ({ s with shuffles := s.shuffles + 1 }.withPlayer renewed).players ≠ [] :=
    players_withPlayer_ne_nil hp renewed
  obtain ⟨q, hq⟩ := exists_current_turnPassed hplayers
  exact ⟨_, consolidate_eq_ok.mpr ⟨cards, q, hcards, hq, rfl⟩⟩

theorem exists_ended (hp : p ∈ s.players) : ∃ r, s.endTurn p = .ok r := by
  obtain ⟨q, hq⟩ := exists_current_turnPassed (players_withPlayer_ne_nil hp _)
  exact ⟨_, endTurn_eq_ok.mpr ⟨q, hq, rfl⟩⟩

theorem exists_onSpot {n : Int} {judge : Value → Spot String Int → Bool}
    (hspot : m.spot = .int n) (hn : n.natAbs < 10 ^ Number.digitLimit)
    (h : s.onSpot (judge (.text p.id)) (.int n) = true) :
    ∃ x, s.namedSpot m.spot = .ok x ∧ judge (.text p.id) x = true ∧
      (Value.int x.id).isWritable = true := by
  obtain ⟨x, hx, hjudge⟩ : ∃ x, s.spot? (.int n) = some x ∧ judge (.text p.id) x = true := by
    simpa [onSpot, Option.any_eq_true] using h
  obtain ⟨-, rfl⟩ := spot?_eq_some hx
  exact ⟨x, hspot ▸ namedSpot_int.mpr hx, hjudge, isWritable_of_lt hn⟩

theorem exists_chosen {i : Nat} {c : Choice} {b : Benefit} (hc : s.choices[i]? = some c)
    (hb : b ∈ c.options) (hplace : m.intent.getD 0 = i) (hname : SameName (.text b.text) m.choice) :
    ∃ r, s.answerChoice p (m.intent.getD 0) m.choice = .ok r := by
  obtain ⟨name, hchoice, hkey⟩ := sameName_text.mp hname
  obtain ⟨d, hd⟩ := exists_find? hb hkey
  refine ⟨_, answerChoice_eq_ok.mpr
    ⟨c, name, d, ?_, ?_, choiceText_eq_ok.mpr (.inl hchoice), hd, rfl⟩⟩
  · rw [hplace]
    exact Int.natCast_nonneg i
  · rw [hplace, Int.toNat_natCast]
    exact hc

theorem exists_nested {c : Conditional} {b : Benefit} (hs : s.Playable)
    (hc : s.conditionals.head? = some c) (hb : b ∈ c.nested)
    (hname : SameName (.text b.text) m.choice) : ∃ d, c.Grants m.choice d := by
  obtain ⟨name, hchoice, hkey⟩ := sameName_text.mp hname
  obtain ⟨d, hfind⟩ := exists_find? hb hkey
  have hempty : name ≠ "" := by
    rintro rfl
    exact hs.nested c (List.mem_of_head? hc) b hb (hkey.trans nameKey_empty)
  exact ⟨d, .inr ⟨List.ne_nil_of_mem hb, name, hchoice, hempty, hfind⟩⟩

theorem exists_draw (hm : m.Feasible s) (hk : m.kind = .draw)
    (hcurrent : atSeat? s.players s.seat = some p) (hc : p.deck ++ p.discard ≠ []) :
    ∃ r, s.draw Shuffle.seeded p = .ok r := by
  by_cases hdeck : p.deck = []
  -- only here does a draw need the shuffle
  · have hdraws : ∀ q, s.current = .ok q → q.deck = [] := fun q hq =>
      Option.some.inj (hcurrent.symm.trans (current_eq_ok.mp hq)) ▸ hdeck
    obtain ⟨cards, hcards⟩ := hm.exists_seeded (.inr ⟨hk, hdraws⟩) p.discard
    have hdiscard : p.discard ≠ [] := by simpa [hdeck] using hc
    exact ⟨_, draw_eq_ok.mpr (.inr ⟨hdeck, hdiscard, cards, hcards, rfl⟩)⟩
  · exact ⟨_, draw_eq_ok.mpr (.inl ⟨hdeck, rfl⟩)⟩

theorem perform_of_listed (hs : s.Playable) (hm : m.Feasible s)
    (hcurrent : atSeat? s.players s.seat = some p) (hg : Listed rules s p g) (ha : g.AgreesOn s m) :
    m.player = .text p.id ∧ p.Ready m.kind ∧ ∃ r, s.perform rules Shuffle.seeded p m = .ok r := by
  obtain ⟨hkind, hplayer, hfields⟩ := ha
  have hpmem := hs.seated.mem hcurrent
  have hhand := hs.hand hpmem
  have hdiscard := hs.discard hpmem
  unfold perform
  rw [← hkind] at hfields ⊢
  cases hg with
  | choose hc hb =>
    obtain ⟨hplace, hname⟩ := hfields
    exact ⟨hplayer.symm, Player.ready_of_free rfl, exists_chosen hc hb hplace.symm hname⟩
  | @accept c hnone hc hd hn hpay =>
    obtain ⟨-, haccept, -⟩ := hfields
    exact ⟨hplayer.symm, Player.ready_of_free rfl, exists_answered haccept.symm hnone hc hd
      fun _ => ⟨c.benefit, .inl ⟨hn, rfl⟩, hpay⟩⟩
  | @acceptOne c b hnone hc hd hb hpay =>
    obtain ⟨-, haccept, hname⟩ := hfields
    obtain ⟨d, hgrants⟩ := exists_nested hs hc hb (hname c haccept.symm hc (List.ne_nil_of_mem hb))
    exact ⟨hplayer.symm, Player.ready_of_free rfl, exists_answered haccept.symm hnone hc hd
      fun _ => ⟨d, hgrants, hpay⟩⟩
  | decline hnone hc hd =>
    obtain ⟨-, haccept, -⟩ := hfields
    exact ⟨hplayer.symm, Player.ready_of_free rfl, exists_answered haccept.symm hnone hc hd nofun⟩
  | @expand id hd hq hc =>
    have hcard : m.card = .text id := hfields.symm
    obtain ⟨t, c, hmay⟩ := exists_mayExpand hs.seated hpmem hhand hd hq hc
    exact ⟨hplayer.symm, Player.ready_of_free rfl, _, expand_eq_ok.mpr ⟨c, t, hcard ▸ hmay, rfl⟩⟩
  | draw hr hc => exact ⟨hplayer.symm, hr, exists_draw hm hkind.symm hcurrent hc⟩
  | @take c hr hc =>
    have hcard : m.card = .text c.id := hfields.symm
    obtain ⟨d, hd, -⟩ := exists_named hc
    exact ⟨hplayer.symm, hr, _, take_eq_ok.mpr ⟨d, hcard ▸ hd, rfl⟩⟩
  | @ofHand k c hk hr hc =>
    have hne := hhand c hc
    obtain ⟨d, hd, -⟩ := exists_named hc
    rw [← named_text hne] at hd
    refine ⟨hplayer.symm, hr, ?_⟩
    simp only [handKinds, List.mem_cons, List.not_mem_nil, or_false] at hk
    obtain rfl | rfl | rfl := hk
    · have hcard : m.card = .text c.id := hfields.symm
      exact ⟨_, discard_eq_ok.mpr ⟨d, hcard ▸ hd, rfl⟩⟩
    · have hcard : m.card = .text c.id := hfields.symm
      exact ⟨_, exile_eq_ok.mpr ⟨d, hcard ▸ hd, rfl⟩⟩
    · have hcard : m.card = .text c.id := hfields.symm
      exact ⟨_, bury_eq_ok.mpr ⟨d, hcard ▸ hd, rfl⟩⟩
  | @revive c hr hc =>
    have hcard : m.card = .text c.id := hfields.symm
    obtain ⟨d, hd, -⟩ := exists_named hc
    rw [← named_text (hdiscard c hc)] at hd
    exact ⟨hplayer.symm, hr, _, revive_eq_ok.mpr ⟨d, hcard ▸ hd, rfl⟩⟩
  | @onSpot k x judge hk hx hj =>
    have hspot : m.spot = .int x.id := by
      obtain ⟨rfl, -⟩ | ⟨rfl, -⟩ | ⟨rfl, -⟩ := hk <;> exact hfields.symm
    have hkind' : m.kind = .placeArmy ∨ m.kind = .fight ∨ m.kind = .buildOutpost := by
      obtain ⟨rfl, -⟩ | ⟨rfl, -⟩ | ⟨rfl, -⟩ := hk
      exacts [.inl hkind.symm, .inr (.inl hkind.symm), .inr (.inr hkind.symm)]
    obtain ⟨y, hy, hjudge, hid⟩ := exists_onSpot hspot (hm.spot hkind' x.id hspot) hj
    obtain ⟨rfl, hr, rfl⟩ | ⟨rfl, hr, rfl⟩ | ⟨rfl, hr, rfl⟩ := hk
    · exact ⟨hplayer.symm, Player.ready_of_free rfl, _,
        placeArmy_eq_ok.mpr ⟨y, hr, hy, hjudge, hid, rfl⟩⟩
    · exact ⟨hplayer.symm, hr, _, fight_eq_ok.mpr ⟨y, hy, hjudge, hid, rfl⟩⟩
    · exact ⟨hplayer.symm, hr, _, buildOutpost_eq_ok.mpr ⟨y, hy, hjudge, hid, rfl⟩⟩
  | @ending k hk =>
    refine ⟨hplayer.symm, ?_⟩
    obtain rfl | rfl := hk
    · exact ⟨Player.ready_of_free rfl, exists_consolidated (hm.exists_seeded (.inl hkind.symm)) hpmem⟩
    · refine ⟨Player.ready_of_free rfl, ?_⟩
      change ∃ r, (if s.phase = .setup then .ok (s.start rules p) else s.endTurn p) = .ok r
      split_ifs
      · exact ⟨_, rfl⟩
      · exact exists_ended hpmem

end State

namespace Listed

theorem wellTyped (h : Listed rules s p g) : g.WellTyped := by
  cases h <;> constructor <;>
    first
    | exact .inl rfl
    | exact .inr ⟨_, rfl⟩

theorem agreesOn_self (h : Listed rules s p g) : g.AgreesOn s g := by
  refine ⟨rfl, rfl, ?_⟩
  cases h with
  | choose hc hb => exact ⟨rfl, _, _, rfl, rfl, rfl⟩
  | accept hs hc hd hn ha =>
    refine ⟨bool_ne_null true, rfl, fun c _ hc' hne => ?_⟩
    rw [hc] at hc'
    exact absurd (Option.some.inj hc' ▸ hn) hne
  | acceptOne hs hc hd hb ha =>
    exact ⟨bool_ne_null true, rfl, fun _ _ _ _ => ⟨_, _, rfl, rfl, rfl⟩⟩
  | decline hs hc hd =>
    refine ⟨bool_ne_null false, rfl, fun c ht => ?_⟩
    cases ht
  | expand hd hq hc => rfl
  | draw hr hc => trivial
  | take hr hc => rfl
  | ofHand hk hr hc =>
    simp only [handKinds, List.mem_cons, List.not_mem_nil, or_false] at hk
    obtain rfl | rfl | rfl := hk <;> rfl
  | revive hr hc => rfl
  | onSpot hk hx hj => obtain ⟨rfl, -⟩ | ⟨rfl, -⟩ | ⟨rfl, -⟩ := hk <;> rfl
  | ending hk => obtain rfl | rfl := hk <;> trivial

end Listed

namespace State

theorem Playable.legalMoves (rules : Rulebook String) (hs : s.Playable) :
    ∃ legal, s.legalMoves rules = .ok legal ∧
      (∀ m : Move, m.WellTyped →
        ((∃ r, s.play rules Shuffle.seeded m = .ok r) ↔
          m.Feasible s ∧ ∃ g ∈ legal, g.AgreesOn s m)) ∧
      ∀ g ∈ legal, g.WellTyped ∧ g.AgreesOn s g := by
  by_cases hover : s.phase = .ended ∨ s.players = []
  · refine ⟨[], legalMoves_over hover, fun m _ => ⟨?_, by simp⟩, by simp⟩
    rintro ⟨r, hr⟩
    obtain ⟨p, x, hp, -, -⟩ := play_eq_ok.mp hr
    exact absurd hover (not_or.mpr ⟨hp.goesOn, hp.seated⟩)
  rw [not_or] at hover
  obtain ⟨p, hcurrent⟩ := hs.seated.exists_current hover.2
  -- before the game has begun the list has one move only, but that is a listed one as well
  have hlists : Lists (s.legalMoves rules) _ := lists_legalMoves hover.1 hover.2 hcurrent
  obtain ⟨legal, hlegal, hmem⟩ := hlists
  have hlisted {g : Move} (hg : g ∈ legal) :
      Listed rules s p g ∧ (s.phase ≠ .setup ∨ g.kind = .endTurn) := by
    have hg' := (hmem g).mp hg
    split_ifs at hg' with hsetup
    · subst hg'
      exact ⟨.ending (.inr rfl), .inr rfl⟩
    · exact ⟨hg', .inl hsetup⟩
  refine ⟨legal, hlegal, fun m hm => ⟨?_, ?_⟩, fun g hg => ⟨(hlisted hg).1.wellTyped,
    (hlisted hg).1.agreesOn_self⟩⟩
  · rintro ⟨r, hr⟩
    obtain ⟨q, x, hq, hx, -⟩ := play_eq_ok.mp hr
    obtain rfl := Option.some.inj (hcurrent.symm.trans hq.current)
    refine ⟨feasible_of_perform hm hcurrent hx, ?_⟩
    by_cases hsetup : s.phase = .setup
    · have hkind : m.kind = .endTurn := hq.started.resolve_left (not_not.mpr hsetup)
      refine ⟨.plain .endTurn p.id, (hmem _).mpr (by simp [hsetup]), hkind.symm, hq.named.symm, ?_⟩
      rw [hkind]
      trivial
    · obtain ⟨g, hg, ha⟩ := exists_listed hs hm hq hx
      exact ⟨g, (hmem g).mpr (by simpa [hsetup] using hg), ha⟩
  · rintro ⟨hfeasible, g, hg, ha⟩
    obtain ⟨hg, hstarted⟩ := hlisted hg
    obtain ⟨hplayer, hready, x, hx⟩ := perform_of_listed hs hfeasible hcurrent hg ha
    exact ⟨_, play_eq_ok.mpr ⟨p, x,
      ⟨hover.1, ha.1 ▸ hstarted, hover.2, hcurrent, hplayer, hready⟩, hx, rfl⟩⟩

end State

theorem Reachable.cards (hd : Distinct rules.cards) (hshuffle : Permutes shuffle)
    (h : Reachable rules shuffle s) : s.cards.Perm rules.cards := by
  induction h with
  | deal h => exact State.newGame_cards hshuffle h
  | step h x ih => exact (State.after_flow h.seated ih hd hshuffle x).whole.trans ih

theorem Reachable.questions (h : Reachable rules shuffle s) : ∃ e, Questions s e := by
  induction h with
  | deal h => exact ⟨none, Questions.newGame h⟩
  | step h x ih =>
    obtain ⟨e, he⟩ := ih
    exact ⟨_, he.after x⟩

theorem Card.clause_compiled {c : Card String} {t : Tier} {clause : Clause}
    (h : clause ∈ c.clausesAt t) :
    ∃ text prog, Program.compile text = .ok prog ∧ clause ∈ prog.clauses := by
  rcases List.mem_append.mp h with h | h
  · exact ⟨_, _, (c.power.get t).compiled, h⟩
  · exact ⟨_, _, c.bonus.compiled, h⟩

namespace Reachable

theorem choice_compiled {c : Choice} (h : Reachable rules shuffle s) (hc : c ∈ s.choices) :
    ∃ text prog, Program.compile text = .ok prog ∧ .choice c ∈ prog.clauses := by
  obtain ⟨e, he⟩ := h.questions
  obtain ⟨card, t, hcard⟩ := he.choice_mem hc
  exact Card.clause_compiled hcard

theorem conditional_compiled {c : Conditional} (h : Reachable rules shuffle s)
    (hc : c ∈ s.conditionals) :
    ∃ text prog, Program.compile text = .ok prog ∧ .conditional c ∈ prog.clauses := by
  obtain ⟨e, he⟩ := h.questions
  obtain ⟨card, t, hcard⟩ := he.conditional_mem hc
  exact Card.clause_compiled hcard

theorem nested_named {c : Conditional} {b : Benefit} (h : Reachable rules shuffle s)
    (hc : c ∈ s.conditionals) (hb : b ∈ c.nested) : nameKey b.text ≠ "" := by
  obtain ⟨text, prog, hprog, hclause⟩ := h.conditional_compiled hc
  exact (shown_of_mem_offered hprog hclause hb).nameKey_ne_empty

theorem option_named {c : Choice} {b : Benefit} (h : Reachable rules shuffle s)
    (hc : c ∈ s.choices) (hb : b ∈ c.options) : nameKey b.text ≠ "" := by
  obtain ⟨text, prog, hprog, hclause⟩ := h.choice_compiled hc
  exact (shown_of_mem_offered hprog hclause hb).nameKey_ne_empty

theorem playable (hd : Distinct rules.cards) (hids : ∀ c ∈ rules.cards, c.id ≠ "")
    (hshuffle : Permutes shuffle) (h : Reachable rules shuffle s) : s.Playable where
  seated := h.seated
  ids := fun c hc => hids c ((h.cards hd hshuffle).subset hc)
  options := fun _ hc _ hb => h.option_named hc hb
  nested := fun _ hc _ hb => h.nested_named hc hb

end Reachable

/-- A well-typed move is accepted just when it agrees with a listed one and is feasible: the number of
its spot, if it names one, can be written, and so can the seed and how many shuffles there were, if it
shuffles. So a listed move that is feasible is accepted, as it is and as it is read again from its
record. -/
theorem accepted_iff_legal (hd : Distinct rules.cards) (hids : ∀ c ∈ rules.cards, c.id ≠ "")
    (h : Reachable rules Shuffle.seeded s) :
    ∃ legal, s.legalMoves rules = .ok legal ∧
      (∀ m : Move, m.WellTyped →
        ((∃ r, s.play rules Shuffle.seeded m = .ok r) ↔
          m.Feasible s ∧ ∃ g ∈ legal, g.AgreesOn s m)) ∧
      ∀ g ∈ legal, g.Feasible s → (∃ r, s.play rules Shuffle.seeded g = .ok r) ∧
        ∃ m, Move.ofRecord g.toRecord = .ok m ∧ ∃ r, s.play rules Shuffle.seeded m = .ok r := by
  obtain ⟨legal, hlegal, hiff, hself⟩ := (h.playable hd hids permutes_seeded).legalMoves rules
  refine ⟨legal, hlegal, hiff, fun g hg hfeasible => ?_⟩
  obtain ⟨htyped, hagrees⟩ := hself g hg
  have haccepted := (hiff g htyped).mpr ⟨hfeasible, g, hg, hagrees⟩
  exact ⟨haccepted, g, Move.ofRecord_toRecord htyped, haccepted⟩

/-- A rulebook of one card and one spot, with a number of its own. -/
def lonelyRulebook (spot : Int) : Rulebook String :=
  { skirmishRulebook with
    minPlayers := 1, cards := skirmishRulebook.cards.take 1, handSize := 1, deckSize := 0
    sites := [⟨spot, .starting, 0, 0⟩], grid := ⟨1, 1⟩ }

theorem emptyMap_lonely (spot : Int) :
    emptyMap (ι := String) (ν := Int) (lonelyRulebook spot).grid (lonelyRulebook spot).sites =
      [{ id := spot, kind := .starting, row := 0, column := 0
         adjacent := (Grid.mk 1 1).adjacent spot, armies := 0 }] := by
  have hsame : (Amount.ofInt : Int → Int) = id := rfl
  rw [lonelyRulebook, emptyMap, List.mergeSort_singleton, List.map_singleton, hsame, List.map_id]
  rfl

/-- Where the spot is number one, to place an army there is listed, and whatever is listed is accepted;
a fight is neither. -/
theorem accepted_iff_legal_lonely :
    ∃ s₀ : State String Int,
      newGame (lonelyRulebook 1) Shuffle.seeded "game" 7 ["Ada"] = .ok s₀ ∧
        let s := s₀.run (lonelyRulebook 1) Shuffle.seeded (skirmishSteps.take 2)
        ∃ legal, s.legalMoves (lonelyRulebook 1) = .ok legal ∧
          (∃ g ∈ legal, g.kind = .placeArmy) ∧
          (∀ g ∈ legal, g.Feasible s ∧ ∃ r, s.play (lonelyRulebook 1) Shuffle.seeded g = .ok r) ∧
          ∀ m : Move, m.WellTyped → m.kind = .fight →
            ¬∃ r, s.play (lonelyRulebook 1) Shuffle.seeded m = .ok r := by
  have hcards : (lonelyRulebook 1).cards = [_] := rfl
  obtain ⟨s₀, h, hplain⟩ := newGame_single hcards "game" 7 ["Ada"] (by decide +kernel) (by decide)
  let s := s₀.run (lonelyRulebook 1) Shuffle.seeded (skirmishSteps.take 2)
  have hrun : (s.seed, s.shuffles) = (7, 1) ∧
      (s.legalMoves (lonelyRulebook 1)).toOption.map (fun legal =>
        legal.any (·.kind = .placeArmy) &&
          legal.all fun g => g.kind ≠ .fight && g.spot.isWritable) = some true := by
    subst s
    obtain rfl := Except.ok.inj hplain
    rw [emptyMap_lonely]
    decide +kernel
  obtain ⟨hcounts, hlists⟩ := hrun
  have hdistinct : Distinct (lonelyRulebook 1).cards := List.nodup_singleton _
  obtain ⟨legal, hlegal, hiff, haccepted⟩ := accepted_iff_legal hdistinct (by decide +kernel)
    (Reachable.run (.deal h) (skirmishSteps.take 2))
  obtain ⟨listed, hlisted, hboth⟩ := toOption_map_eq_some.mp hlists
  obtain rfl : legal = listed := Except.ok.inj (hlegal.symm.trans hlisted)
  obtain ⟨hplace, hall⟩ := Bool.and_eq_true_iff.mp hboth
  have hmove {g : Move} (hg : g ∈ legal) : g.kind ≠ .fight ∧ g.spot.isWritable = true := by
    simpa using List.all_eq_true.mp hall g hg
  have hfeasible {g : Move} (hg : g ∈ legal) : g.Feasible s := by
    refine ⟨fun _ n hn => ?_, fun _ => ?_⟩
    · exact isWritable_int.mp (hn ▸ (hmove hg).2)
    · obtain ⟨hseed, hcount⟩ := Prod.mk.inj hcounts
      rw [hseed, hcount]
      decide +kernel
  refine ⟨s₀, h, legal, hlegal, by simpa using hplace,
    fun g hg => ⟨hfeasible hg, (haccepted g hg (hfeasible hg)).1⟩, fun m hm hfight haccept => ?_⟩
  obtain ⟨-, g, hg, hkind, -⟩ := (hiff m hm).mp haccept
  exact (hmove hg).1 (hkind.trans hfight)

/-- Where the spot has a number of too many digits, to place an army there is listed but not accepted,
as the spot cannot be told. -/
theorem listed_yet_refused :
    let rules := lonelyRulebook (10 ^ 4300)
    Distinct rules.cards ∧ (∀ c ∈ rules.cards, c.id ≠ "") ∧
      ∃ s, Reachable rules Shuffle.seeded s ∧ ∃ legal, s.legalMoves rules = .ok legal ∧
        ∃ g ∈ legal, g.kind = .placeArmy ∧ g.WellTyped ∧ g.AgreesOn s g ∧
          s.play rules Shuffle.seeded g = .error (.failed .tooLongToWrite) := by
  intro rules
  have hdistinct : Distinct rules.cards := List.nodup_singleton _
  have hids : ∀ c ∈ rules.cards, c.id ≠ "" := by decide +kernel
  have hcards : rules.cards = [_] := rfl
  obtain ⟨s₀, h, hplain⟩ := newGame_single hcards "game" 7 ["Ada"] (by decide +kernel) (by decide)
  let s := s₀.run rules Shuffle.seeded (skirmishSteps.take 2)
  have hrefused : (s.legalMoves rules).toOption.map (fun legal =>
      legal.any fun g => g.kind = .placeArmy && match s.play rules Shuffle.seeded g with
        | .error (.failed .tooLongToWrite) => true
        | _ => false) = some true := by
    subst s
    obtain rfl := Except.ok.inj hplain
    rw [emptyMap_lonely]
    decide +kernel
  have hreach : Reachable rules Shuffle.seeded s := Reachable.run (.deal h) _
  obtain ⟨legal, hlegal, -, hself⟩ := (hreach.playable hdistinct hids permutes_seeded).legalMoves rules
  obtain ⟨listed, hlisted, hany⟩ := toOption_map_eq_some.mp hrefused
  obtain rfl : legal = listed := Except.ok.inj (hlegal.symm.trans hlisted)
  obtain ⟨g, hg, hboth⟩ := List.any_eq_true.mp hany
  obtain ⟨hkind, hplay⟩ := Bool.and_eq_true_iff.mp hboth
  refine ⟨hdistinct, hids, s, hreach, legal, hlegal, g, hg, of_decide_eq_true hkind,
    (hself g hg).1, (hself g hg).2, ?_⟩
  split at hplay
  · assumption
  · cases hplay

end GuildCards
