import Mathlib
import GuildCards.Proofs.Cards.Conservation
import GuildCards.Proofs.Play.Causes
import GuildCards.Proofs.Play.Course
import GuildCards.Proofs.Play.History

/-!
The piles of the guilds. The cards of a pile are of its guild and of different colors, so there are
five at most and the place of each has a tier. A pile grows at its end, and a player who
consolidates cuts every pile back to its first card. What a card does when it is played is said by the
one of its three texts that the length of the pile picks, and by its bonus.
-/
namespace GuildCards
open Document Effect

variable {rules : Rulebook String} {shuffle : Shuffler String Int} {s t : State String Int}
  {p q u v : Player String Int} {r : Played String Int} {m : Move} {c : Card String} {g : Guild}
  {pile : Pile String} {done : List Move}

theorem Color.mem_all (c : Color) : c ∈ Color.all := by
  cases c <;> decide

def Tier.ofLength (n : Nat) : Tier := if n = 1 then .first else if n ≤ 3 then .middle else .last

theorem Tier.eq_ofLength {n : Nat} {t : Tier} (h : Tier.at? n = some t) : t = Tier.ofLength n := by
  unfold Tier.at? at h
  unfold Tier.ofLength
  split_ifs at h ⊢ <;> first | omega | exact (Option.some.inj h).symm

/-- The text that a card has power by as the last of `n` cards of its pile. -/
def Card.textAt (c : Card String) (n : Nat) : EffectText :=
  if n = 1 then c.power.first else if n ≤ 3 then c.power.middle else c.power.last

theorem Card.clausesAt_eq {n : Nat} {t : Tier} (h : Tier.at? n = some t) :
    c.clausesAt t = (c.textAt n).program.clauses ++ c.bonus.program.clauses := by
  rw [Tier.eq_ofLength h, Card.clausesAt, Card.textAt, Tier.ofLength]
  split_ifs <;> rfl

section Applied
variable {x : Resource} {clauses : List Clause}

/-- How much of a resource the gain clauses among some clauses grant. -/
def gained (x : Resource) (clauses : List Clause) : Int :=
  (clauses.map fun
    | .gain _ ds => amountOf x ds
    | _ => 0).sum

/-- Clauses are applied to the player `p`, who becomes `q`: what the gain clauses grant is added to what
the player holds, the choices are open, and so are the conditionals whose cost `q` can pay. -/
structure State.Applied (t : State String Int) (clauses : List Clause) (p q : Player String Int) :
    Prop where
  holds : ∀ x, q.holds x = p.holds x + gained x clauses
  choices : t.choices.map Clause.choice = clauses.filter fun
    | .choice _ => true
    | _ => false
  conditionals : t.conditionals.map Clause.conditional = clauses.filter fun
    | .conditional d => q.affords d.cost
    | _ => false

theorem amountOf_grantsOf (x : Resource) (clauses : List Clause) :
    amountOf x (grantsOf clauses) = gained x clauses := by
  induction clauses with
  | nil => rfl
  | cons clause clauses ih =>
    have hcons : grantsOf (clause :: clauses) = clause.gains ++ grantsOf clauses := rfl
    rw [hcons, amountOf_append, ih, gained, gained, List.map_cons, List.sum_cons]
    cases clause <;> rfl

theorem map_choices (clauses : List Clause) :
    (clauses.filterMap Clause.choice?).map Clause.choice = clauses.filter fun
      | .choice _ => true
      | _ => false := by
  induction clauses with
  | nil => rfl
  | cons clause clauses ih => cases clause <;> simp [List.filterMap_cons, Clause.choice?, ih]

theorem map_payable (q : Player String Int) (clauses : List Clause) :
    (payableOf clauses q).map Clause.conditional = clauses.filter fun
      | .conditional d => q.affords d.cost
      | _ => false := by
  induction clauses with
  | nil => rfl
  | cons clause clauses ih =>
    unfold payableOf at ih ⊢
    cases clause with
    | conditional d => by_cases hpay : q.affords d.cost = true <;>
        simp [Clause.conditional?, hpay, ih]
    | _ => simp [List.filterMap_cons, Clause.conditional?, ih]

theorem State.applied_expanded (s : State String Int) (p : Player String Int) (c : Card String)
    (t : Tier) : (s.expanded p c t).state.Applied (c.clausesAt t) p
      ((p.putDown c).grantedAll (grantsOf (c.clausesAt t))) where
  holds x := by rw [Player.holds_grantedAll, Player.holds_putDown, amountOf_grantsOf]
  choices := map_choices _
  conditionals := map_payable _ _

end Applied

namespace Pile

/-- A pile of cards of one guild, each of another color. -/
structure Stacked (g : Guild) (pile : Pile String) : Prop where
  guild : ∀ c ∈ pile, c.guild = g
  colors : (pile.map (·.color)).Nodup

theorem stacked_nil (g : Guild) : Stacked g [] := ⟨by simp, List.nodup_nil⟩

theorem Stacked.length_le (h : Stacked g pile) : pile.length ≤ pileLimit := by
  have hsub : (pile.map (·.color)).Subperm Color.all :=
    h.colors.subperm fun c _ => Color.mem_all c
  rw [← List.length_map (f := Card.color)]
  exact hsub.length_le

theorem Stacked.concat (h : Stacked c.guild pile) (hc : pile.admits c.color = true) :
    Stacked c.guild (pile ++ [c]) := by
  have hnew : ∀ d ∈ pile, d.color ≠ c.color := by
    have hcolor : pile.hasColor c.color = false := by
      simpa using (Bool.and_eq_true_iff.mp hc).2
    simpa [hasColor] using hcolor
  refine ⟨?_, ?_⟩
  · rw [List.forall_mem_append, List.forall_mem_singleton]
    exact ⟨h.guild, rfl⟩
  · rw [List.map_append, List.map_singleton, List.nodup_append]
    refine ⟨h.colors, List.nodup_singleton _, ?_⟩
    rintro _ hd _ (hcolor : _ ∈ [c.color]) rfl
    obtain ⟨d, hd, heq⟩ := List.mem_map.mp hd
    exact hnew d hd (heq.trans (List.mem_singleton.mp hcolor))

theorem Stacked.base (h : Stacked g pile) : Stacked g pile.base :=
  ⟨fun c hc => h.guild c (List.mem_of_mem_take hc),
    h.colors.sublist ((List.take_sublist 1 pile).map _)⟩

end Pile

namespace Stacking

theorem stacked (h : Stacking p m q) (hp : ∀ g, (p.piles.get g).Stacked g) :
    ∀ g, (q.piles.get g).Stacked g := by
  intro g
  cases h with
  | keeping hm piles => exact piles ▸ hp g
  | laying c hm admits piles =>
    rw [piles, Piles.get_set]
    split_ifs with hg
    · exact hg ▸ (hp c.guild).concat admits
    · exact hp g
  | cutting hm piles =>
    rw [piles, Piles.get_map]
    exact (hp g).base

theorem grows (h : Stacking p m q) (hm : m.kind ≠ .consolidate) (g : Guild) :
    p.piles.get g <+: q.piles.get g := by
  cases h with
  | keeping _ piles => exact piles ▸ List.prefix_rfl
  | laying c _ admits piles =>
    rw [piles, Piles.get_set]
    split_ifs with hg
    · exact hg ▸ List.prefix_append ..
    · exact List.prefix_rfl
  | cutting hk piles => exact absurd hk hm

theorem cuts (h : Stacking p m q) (hm : m.kind = .consolidate) (g : Guild) :
    q.piles.get g = (p.piles.get g).take 1 := by
  cases h with
  | keeping hk piles => exact absurd hm hk
  | laying c hk => simp [hm] at hk
  | cutting hk piles => rw [piles, Piles.get_map, Pile.base]

end Stacking

/-- A player before and after some moves: unless the player consolidates among them, every pile is
as before but for cards that came to its end. -/
structure Player.Grows (done : List Move) (u v : Player String Int) : Prop where
  id : v.id = u.id
  piles : (∀ m ∈ done, m.kind = .consolidate → m.player ≠ .text u.id) →
    ∀ g, u.piles.get g <+: v.piles.get g

theorem Player.Grows.trans {more : List Move} {w : Player String Int} (h : Player.Grows done u v)
    (h' : Player.Grows more v w) : Player.Grows (done ++ more) u w := by
  refine ⟨h'.id.trans h.id, fun hquiet g => ?_⟩
  rw [List.forall_mem_append] at hquiet
  exact (h.piles hquiet.1 g).trans (h'.piles (h.id ▸ hquiet.2) g)

theorem Course.grows (hs : s.Seated) (hp : s.MayMove m p) (h : Course s p m t q) :
    List.Forall₂ (Player.Grows [m]) s.players t.players := by
  rw [h.players]
  refine State.forall₂_withPlayer hs (hs.mem hp.current) h.id ⟨h.id, fun hquiet => ?_⟩
    fun u _ => ⟨rfl, fun _ _ => List.prefix_rfl⟩
  exact h.stacking.grows fun hm => hquiet m List.mem_cons_self hm hp.named

namespace Reachable

theorem stacked (h : Reachable rules shuffle s) :
    ∀ p ∈ s.players, ∀ g, (p.piles.get g).Stacked g := by
  apply h.players_induction (P := fun p => ∀ g, (p.piles.get g).Stacked g)
  · intro p hdealt g
    rw [hdealt.piles]
    cases g <;> exact Pile.stacked_nil _
  · exact fun _ hcourse hp => hcourse.stacking.stacked hp

theorem grows (h : Reachable rules shuffle s) (steps : List Step) :
    List.Forall₂ (Player.Grows (s.made rules shuffle steps)) s.players
      (s.run rules shuffle steps).players := by
  apply h.made_induction (P := fun done t => List.Forall₂ (Player.Grows done) s.players t.players)
  · exact List.forall₂_same.mpr fun u _ => ⟨rfl, fun _ _ => List.prefix_rfl⟩
  · intro done t m r ht hgrows hr
    obtain ⟨p, q, hp, hcourse⟩ := State.play_course ht.seated hr
    exact forall₂_trans (fun _ _ _ h h' => h.trans h') hgrows (hcourse.grows ht.seated hp)
  · exact fun hgrows => hgrows
  · exact fun _ hgrows => hgrows

end Reachable

namespace State

/-- The player `p` becomes `q` by playing a card: it goes to the end of its pile, and the text that the
length of the pile picks is applied, and the bonus. -/
structure Lays (s : State String Int) (m : Move) (r : Played String Int) (p q : Player String Int)
    (c : Card String) : Prop where
  current : s.current = .ok p
  found : named p.hand m.card = some c
  mem : q ∈ r.state.players
  id : q.id = p.id
  pile : q.piles.get c.guild = p.piles.get c.guild ++ [c]
  told : Event.expanded (.text p.name) (.text c.id) c.guild (q.piles.get c.guild).length
    (Tier.ofLength (q.piles.get c.guild).length) ∈ r.events
  applied : r.state.Applied
    ((c.textAt (q.piles.get c.guild).length).program.clauses ++ c.bonus.program.clauses) p q

theorem exists_lays (hs : s.Seated) (hm : m.kind = .expand)
    (h : s.play rules shuffle m = .ok r) : ∃ p q c, s.Lays m r p q c := by
  obtain ⟨p, y, hp, hy, rfl⟩ := play_eq_ok.mp h
  simp only [perform, hm] at hy
  obtain ⟨c, t, hc, rfl⟩ := expand_eq_ok.mp hy
  let q := (p.putDown c).grantedAll (grantsOf (c.clausesAt t))
  have hid : q.id = p.id := Player.grantedAll_id ..
  have hpile : q.piles.get c.guild = p.piles.get c.guild ++ [c] := by
    rw [Player.grantedAll_piles, Player.putDown, Piles.get_set, if_pos rfl]
  have happlied := s.applied_expanded p c t
  refine ⟨p, q, c, current_eq_ok.mpr hp.current, hc.found, ?_, hid, hpile, ?_, ?_⟩
  · change q ∈ (s.withPlayer q).players
    rw [players_withPlayer]
    exact List.mem_map.mpr ⟨p, hs.mem hp.current, if_pos hid.symm⟩
  · rw [hpile, ← Tier.eq_ofLength hc.tier]
    exact List.mem_append_left _ List.mem_cons_self
  · rw [hpile, ← Card.clausesAt_eq hc.tier]
    exact ⟨happlied.holds, happlied.choices, happlied.conditionals⟩

theorem mover_ne_failed {f : Fault} : s.mover m ≠ .error (.failed f) := by
  have broken_ne {α : Type} (x : Except Fault α) :
      x.mapError Refusal.broken ≠ .error (.failed f) := by
    cases x <;> exact nofun
  intro h
  unfold mover at h
  simp only [need_bind_eq_error, reduceCtorEq, and_false, false_or] at h
  obtain ⟨-, -, -, h⟩ := h
  rcases bind_eq_error.mp h with h | ⟨p, -, h⟩
  · exact broken_ne _ h
  simp only [need_bind_eq_error, reduceCtorEq, and_false, false_or] at h
  obtain ⟨-, h⟩ := h
  split at h
  · rcases bind_eq_error.mp h with h | ⟨b, -, h⟩
    · exact broken_ne _ h
    · obtain ⟨-, hwhy⟩ | ⟨-, h⟩ := need_bind_eq_error.mp h
      · cases hwhy
      · cases h
  · cases h

/-- Playing a card does not fail, unless the card is named by a number too long to be written. -/
theorem expand_ne_failed {f : Fault} (hs : s.Seated) (hm : m.kind = .expand)
    (hf : f ≠ .tooLongToWrite) : s.play rules shuffle m ≠ .error (.failed f) := by
  intro h
  rcases bind_eq_error.mp h with h | ⟨p, hp, h⟩
  · exact mover_ne_failed h
  rcases bind_eq_error.mp h with h | ⟨r, -, h⟩
  · simp only [perform, hm] at h
    obtain h | h | h | ⟨g, c, h⟩ := expand_refused hs (hs.mem (mover_eq_ok.mp hp).current) h
    · unfold Refusal.told at h
      split at h
      · cases h
      · exact hf (Refusal.failed.inj h)
    all_goals cases h
  · cases h

end State

/-- Piles are well formed and grant the right tier. In a pile all cards are of its guild, no two of
one color, and there are five at most. Whatever the moves after, a pile only grows at its end
unless its player consolidates, and that cuts it to its first card. A card that is played goes to
the end of its pile, and what is applied is its first text if the pile has one card by then, its
second if two or three, and its third if more. There is always a tier: at most a card that is named
by a number too long to be written makes the move fail. -/
theorem piles_grant_tiers (h : Reachable rules shuffle s) :
    (∀ p ∈ s.players, ∀ g, (∀ c ∈ p.piles.get g, c.guild = g) ∧
      ((p.piles.get g).map (·.color)).Nodup ∧ (p.piles.get g).length ≤ 5) ∧
    (∀ steps, List.Forall₂ (Player.Grows (s.made rules shuffle steps)) s.players
      (s.run rules shuffle steps).players) ∧
    (∀ m r, m.kind = .consolidate → s.play rules shuffle m = .ok r →
      ∃ p, s.current = .ok p ∧ List.Forall₂
        (fun u v => v.id = u.id ∧ ∀ g, v.piles.get g =
          if u.id = p.id then (u.piles.get g).take 1 else u.piles.get g)
        s.players r.state.players) ∧
    (∀ m r, m.kind = .expand → s.play rules shuffle m = .ok r → ∃ p q c, s.Lays m r p q c) ∧
    ∀ m f, m.kind = .expand → f ≠ .tooLongToWrite → s.play rules shuffle m ≠ .error (.failed f) := by
  refine ⟨fun p hp g => ?_, h.grows, fun m r hm hr => ?_, fun m r hm hr => ?_,
    fun m f hm hf => ?_⟩
  · have hpile := h.stacked p hp g
    exact ⟨hpile.guild, hpile.colors, hpile.length_le⟩
  · obtain ⟨p, q, hp, hcourse⟩ := State.play_course h.seated hr
    refine ⟨p, State.current_eq_ok.mpr hp.current, ?_⟩
    rw [hcourse.players]
    refine State.forall₂_withPlayer h.seated (h.seated.mem hp.current) hcourse.id
      ⟨hcourse.id, fun g => ?_⟩ fun u hu => ⟨rfl, fun g => (if_neg hu).symm⟩
    rw [if_pos rfl, hcourse.stacking.cuts hm]
  · exact State.exists_lays h.seated hm hr
  · exact State.expand_ne_failed h.seated hm hf

/-- What one player does to play the cards of a guild one by one, drawing the fourth in between. -/
def royalSteps : List Step :=
  [.move (.plain .endTurn "player-1"), .move (.onCard .expand "player-1" "royal-blue"),
   .move (.choose "player-1" 0 "+1 draw"), .move (.plain .draw "player-1"),
   .move (.onCard .expand "player-1" "royal-red"), .move (.onCard .expand "player-1" "royal-green")]

/-- The first, the second and the fourth card of a pile: of three different texts, another is applied
each time, as the gold tells that it brings. -/
theorem piles_grant_tiers_sample :
    [sampleTiers.first, sampleTiers.middle, sampleTiers.last].Nodup ∧
    ∃ s₀ : State String Int,
      newGame sampleRulebook unshuffled "game" 7 ["Ada", "Ben"] = .ok s₀ ∧
        ∀ x ∈ [(1, "royal-blue", sampleTiers.first, 5, 9), (4, "royal-red", sampleTiers.middle, 9, 14),
            (6, "royal-yellow", sampleTiers.last, 19, 21)],
          let s := s₀.run sampleRulebook unshuffled (royalSteps.take x.1)
          let m : Move := .onCard .expand "player-1" x.2.1
          ∃ r p q c, s.play sampleRulebook unshuffled m = .ok r ∧ s.Lays m r p q c ∧
            c.textAt (q.piles.get c.guild).length = x.2.2.1 ∧
            p.counters.gold = x.2.2.2.1 ∧ q.counters.gold = x.2.2.2.2 := by
  refine ⟨by decide +kernel, ?_⟩
  obtain ⟨s₀, h⟩ : ∃ s₀ : State String Int,
      newGame sampleRulebook unshuffled "game" 7 ["Ada", "Ben"] = .ok s₀ := ⟨_, rfl⟩
  refine ⟨s₀, h, fun x hx => ?_⟩
  intro s m
  have hrun : s.current.toOption.map (fun p => (p.id, p.counters.gold,
        (State.named p.hand m.card).map fun c => c.textAt ((p.piles.get c.guild).length + 1))) =
      some ("player-1", x.2.2.2.1, some x.2.2.1) ∧
      (s.play sampleRulebook unshuffled m).toOption.map (fun r =>
        r.state.players.map fun q => (q.id, q.counters.gold)) =
      some [("player-1", x.2.2.2.2), ("player-2", 5)] := by
    subst s m
    obtain rfl := Except.ok.inj h
    revert x
    decide +kernel
  obtain ⟨hbefore, hafter⟩ := hrun
  obtain ⟨r, hr, hplayers⟩ := toOption_map_eq_some.mp hafter
  obtain ⟨-, -, -, hlays, -⟩ := piles_grant_tiers (Reachable.run (.deal h) (royalSteps.take x.1))
  obtain ⟨p, q, c, hlaid⟩ := hlays m r rfl hr
  obtain ⟨p', hp', hself⟩ := toOption_map_eq_some.mp hbefore
  obtain rfl : p = p' := Except.ok.inj (hlaid.current.symm.trans hp')
  simp only [Prod.mk.injEq, hlaid.found, Option.map_some, Option.some.injEq] at hself
  obtain ⟨hid, hgold, htext⟩ := hself
  have hq : (q.id, q.counters.gold) ∈ [("player-1", x.2.2.2.2), ("player-2", 5)] :=
    hplayers ▸ List.mem_map_of_mem hlaid.mem
  rw [hlaid.id, hid] at hq
  refine ⟨r, p, q, c, hr, hlaid, ?_, hgold, by simpa using hq⟩
  rw [hlaid.pile, List.length_append]
  exact htext

end GuildCards
