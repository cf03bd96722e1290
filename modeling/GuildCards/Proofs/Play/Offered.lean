import Mathlib
import GuildCards.Proofs.Effect.CaseFree
import GuildCards.Proofs.Effect.Reread
import GuildCards.Proofs.Play.Choices

/-!
What is offered is granted. An answer names an alternative by its text, and the first alternative of
that name in lower case is taken. Its text need not be the one that was named, but where no letter is
disguised both have one plain form, and so the same deltas.
-/
namespace GuildCards
open Document Effect Text

namespace Effect
variable {text name : String} {c : Clause} {a b o : Benefit} {u v : List Char}

def Clause.find? (c : Clause) (name : String) : Option Benefit :=
  match c with
  | .choice c => c.find? name
  | .conditional c => c.find? name
  | _ => none

theorem Clause.find?_eq (c : Clause) (name : String) :
    c.find? name = c.offered.find? (·.matches name) := by
  cases c <;> rfl

/-- A text without a character beyond ASCII that is an ASCII letter in lower case. -/
def Undisguised (s : String) : Prop := ∀ c ∈ s.toList, isDisguised c = false

instance (s : String) : Decidable (Undisguised s) :=
  decidable_of_iff ((s.toList.all fun c => !isDisguised c) = true) (by simp [Undisguised])

theorem map_plain_of_nameKey (ha : trim a.text = a.text) (hb : trim b.text = b.text)
    (hua : Undisguised a.text) (hub : Undisguised b.text) (h : nameKey a.text = nameKey b.text) :
    a.text.toList.map plain = b.text.toList.map plain := by
  have hlower : lower a.text.toList = lower b.text.toList := by
    have hlist := congrArg String.toList h
    rwa [nameKey, nameKey, ha, hb, lowercase, lowercase, String.toList_ofList,
      String.toList_ofList] at hlist
  rw [← map_plain_lower hua, hlower, map_plain_lower hub]

theorem clauseTokens_plain (s : List Char) :
    clauseTokens (s.map plain) = (clauseTokens s).map (Token.mapped plain) := by
  have hperiod : (fun t : Token => !t.isPeriod) ∘ Token.mapped plain = fun t => !t.isPeriod := rfl
  rw [clauseTokens, scan_map keepsClasses_plain, List.filter_map, hperiod, clauseTokens]

theorem benefit_bare_congr (h : u.map plain = v.map plain) :
    (benefit u (clauseTokens u)).map Benefit.bare =
      (benefit v (clauseTokens v)).map Benefit.bare := by
  rw [← benefit_plain, ← clauseTokens_plain, h, clauseTokens_plain, benefit_plain]

theorem deltas_of_nameKey (h : Clause.compile text = .ok c) (ha : a ∈ c.offered)
    (hb : b ∈ c.offered) (hua : Undisguised a.text) (hub : Undisguised b.text)
    (hkey : nameKey a.text = nameKey b.text) : a.deltas = b.deltas := by
  have hplain := map_plain_of_nameKey (offered_named h ha).1 (offered_named h hb).1 hua hub hkey
  have hbare := benefit_bare_congr hplain
  rw [benefit_of_offered h ha, benefit_of_offered h hb] at hbare
  exact deltas_congr (Except.ok.inj hbare)

theorem exists_named (h : Clause.compile text = .ok c)
    (hc : ∀ b ∈ c.offered, Undisguised b.text) (ho : o ∈ c.offered) :
    ∃ b, c.find? o.text = some b ∧ b.deltas = o.deltas := by
  obtain ⟨b, hb⟩ := exists_find? ho (rfl : nameKey o.text = nameKey o.text)
  have hmem : b ∈ c.offered := List.mem_of_find?_eq_some hb
  exact ⟨b, (c.find?_eq o.text).trans hb,
    deltas_of_nameKey h hmem ho (hc b hmem) (hc o ho) (nameKey_of_find? hb)⟩

end Effect

namespace State
variable {rules : Rulebook String} {shuffle : Shuffler String Int} {s : State String Int}
  {p : Player String Int} {x : Conditional} {b : Benefit} {name : String} {m : Move}

def Legal (rules : Rulebook String) (s : State String Int) (m : Move) : Prop :=
  ∃ legal, s.legalMoves rules = .ok legal ∧ m ∈ legal

theorem legal_of_listed (hphase : s.phase = .playing) (hp : atSeat? s.players s.seat = some p)
    (h : Listed rules s p m) : s.Legal rules m := by
  have hplaying : s.phase ≠ .ended ∧ s.phase ≠ .setup := by simp [hphase]
  obtain ⟨legal, hlegal, hmem⟩ :=
    lists_legalMoves hplaying.1 (List.ne_nil_of_mem (mem_of_atSeat? hp)) hp
  simp only [if_neg hplaying.2] at hmem
  exact ⟨legal, hlegal, (hmem m).mpr h⟩

theorem play_accept (hphase : s.phase = .playing) (hp : atSeat? s.players s.seat = some p)
    (hchoices : s.choices = []) (hfront : s.conditionals.head? = some x)
    (hdeferred : s.deferred = none) (haffords : p.affords x.cost = true) (hname : name ≠ "")
    (hb : x.find? name = some b) :
    ∃ r, s.play rules shuffle (.answer p.id true (.text name)) = .ok r ∧
      r.state = { (s.accepted p x b).state with
        history := (s.accepted p x b).state.history ++ [.answer p.id true (.text name)] } := by
  have hmay : s.MayMove (.answer p.id true (.text name)) p := mayMove_of_free hphase hp rfl rfl
  have hnested : x.nested ≠ [] := by
    intro hnil
    rw [Conditional.find?, hnil] at hb
    cases hb
  have hanswer : s.answerConditional p true (.text name) = .ok (s.accepted p x b) :=
    answerConditional_eq_ok.mpr ⟨x, hchoices, hfront, hdeferred,
      .inr ⟨rfl, b, .inr ⟨hnested, name, rfl, hname, hb⟩, haffords, rfl⟩⟩
  exact ⟨_, play_eq_ok.mpr ⟨p, _, hmay, hanswer, rfl⟩, rfl⟩

end State

section Named
variable {text : String} {c : Clause} {o : Benefit}

/-- To name an alternative is to get it. Where no alternative of a clause holds a disguised letter,
each is found by its own text, or another with the same deltas is; so the answer that is among the
legal moves for an alternative is accepted and grants what the alternative does: for a choice at once,
for a conditional with its cost or once its discards are made. -/
theorem named_alternative_granted (h : Clause.compile text = .ok c)
    (hc : ∀ b ∈ c.offered, Undisguised b.text) (ho : o ∈ c.offered) :
    ∃ b, c.find? o.text = some b ∧ b.deltas = o.deltas ∧
      ∀ (rules : Rulebook String) (shuffle : Shuffler String Int) (s : State String Int)
        (p : Player String Int), s.phase = .playing → atSeat? s.players s.seat = some p →
        (∀ x place, c = .choice x → s.choices[place]? = some x →
          let m := Move.choose p.id place o.text
          s.Legal rules m ∧ ∃ r, s.play rules shuffle m = .ok r ∧ r.state = {
            s.withPlayer (p.grantedAll o.deltas) with
              choices := s.choices.eraseIdx place
              history := s.history ++ [m] }) ∧
        (∀ x, c = .conditional x → s.choices = [] → s.conditionals.head? = some x →
          s.deferred = none → p.affords x.cost = true →
          let m := Move.answer p.id true (.text o.text)
          s.Legal rules m ∧ ∃ r, s.play rules shuffle m = .ok r ∧ r.state = {
            (s.accepted p x b).state with
              history := (s.accepted p x b).state.history ++ [m] }) := by
  obtain ⟨b, hb, hdeltas⟩ := exists_named h hc ho
  refine ⟨b, hb, hdeltas, fun rules shuffle s p hphase hp => ⟨?_, ?_⟩⟩
  · rintro x place rfl hx m
    obtain ⟨r, hr, hstate⟩ : ∃ r, s.play rules shuffle m = .ok r ∧
        r.state = s.chosen p place x o.text := State.play_choose hphase hp hx ho
    have hgrants : x.deltasOf o.text = o.deltas := by
      have hfind : x.find? o.text = some b := hb
      rw [Choice.deltasOf, hfind, ← hdeltas]
      rfl
    refine ⟨State.legal_of_listed hphase hp (.choose hx ho), r, hr, ?_⟩
    rw [hstate, State.chosen, hgrants]
  · rintro x rfl hchoices hfront hdeferred haffords m
    exact ⟨State.legal_of_listed hphase hp (.acceptOne hchoices hfront hdeferred ho haffords),
      State.play_accept hphase hp hchoices hfront hdeferred haffords (offered_named h ho).2 hb⟩

/-- The second of the two choices that a card asks. -/
theorem named_alternative_granted_sample :
    ∃ s₀ : State String Int,
      newGame sampleRulebook unshuffled "game" 7 ["Ada", "Ben"] = .ok s₀ ∧
        let s := s₀.run sampleRulebook unshuffled (sampleSteps.take 2)
        ∃ p x, atSeat? s.players s.seat = some p ∧ s.choices[1]? = some x ∧ x.options.length = 2 ∧
          ∀ o ∈ x.options, s.Legal sampleRulebook (.choose p.id 1 o.text) ∧ ∃ r,
            s.play sampleRulebook unshuffled (.choose p.id 1 o.text) = .ok r ∧
              r.state.players = (s.withPlayer (p.grantedAll o.deltas)).players := by
  obtain ⟨s₀, h⟩ : ∃ s₀ : State String Int,
      newGame sampleRulebook unshuffled "game" 7 ["Ada", "Ben"] = .ok s₀ := ⟨_, rfl⟩
  let s := s₀.run sampleRulebook unshuffled (sampleSteps.take 2)
  have hsample : s.phase = .playing ∧ (atSeat? s.players s.seat).isSome = true ∧
      (s.choices[1]?.any fun x => decide (Clause.compile x.source = .ok (.choice x) ∧
        x.options.length = 2 ∧ ∀ b ∈ x.options, Undisguised b.text)) = true := by
    subst s
    obtain rfl := Except.ok.inj h
    decide +kernel
  obtain ⟨hphase, hcurrent, hchoice⟩ := hsample
  obtain ⟨p, hp⟩ := Option.isSome_iff_exists.mp hcurrent
  obtain ⟨x, hx, hcompiled⟩ := (Option.any_eq_true _ _).mp hchoice
  obtain ⟨hcompile, hlength, hplain⟩ := of_decide_eq_true hcompiled
  refine ⟨s₀, h, p, x, hp, hx, hlength, fun o ho => ?_⟩
  obtain ⟨b, -, -, hgame⟩ := named_alternative_granted hcompile hplain ho
  obtain ⟨hlegal, r, hr, hstate⟩ := (hgame sampleRulebook unshuffled s p hphase hp).1 x 1 rfl hx
  exact ⟨hlegal, r, hr, by rw [hstate]⟩

/-- The sign for kelvin is no letter of a word, but in lower case it is. So the first option grants
gold and an army, the second an army alone; and who names the second gets the first. -/
theorem option_shadowed :
    ∃ c o b, Clause.compile "1 gold \u212Aand 1 army or 1 gold kand 1 army" = .ok (.choice c) ∧
      o ∈ c.options ∧ c.find? o.text = some b ∧ b.deltas ≠ o.deltas := by
  let first : Benefit := ⟨"1 gold \u212Aand 1 army", [⟨.counter .gold, 1⟩, ⟨.army, 1⟩]⟩
  let second : Benefit := ⟨"1 gold kand 1 army", [⟨.army, 1⟩]⟩
  refine ⟨⟨"1 gold \u212Aand 1 army or 1 gold kand 1 army", [first, second]⟩, second, first, ?_⟩
  decide +kernel

end Named
end GuildCards
