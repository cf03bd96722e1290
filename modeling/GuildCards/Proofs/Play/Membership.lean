import Mathlib
import GuildCards.Proofs.Effect.WellFormed
import GuildCards.Proofs.Play.Choices
import GuildCards.Proofs.Play.Legality

/-!
Asking whether an answer is legal. The move is looked for in the list of legal moves, with the letter
case of its choice left aside. An answer to a choice may also have blanks around its name, and there
the two part: it is accepted, but it is not found in the list.
-/
namespace GuildCards
open Document Effect

variable {rules : Rulebook String} {shuffle : Shuffler String Int} {s : State String Int}
  {p : Player String Int} {r : Played String Int} {m n : Move} {legal : List Move}

theorem forM_eq_ok {α ε : Type} {f : α → Except ε Unit} {as : List α}
    (h : ∀ a ∈ as, f a = .ok ()) : as.forM f = .ok () := by
  induction as with
  | nil => rfl
  | cons a as ih =>
    obtain ⟨ha, has⟩ := List.forall_mem_cons.mp h
    change (f a >>= fun _ => as.forM f) = _
    rw [ha, ok_bind, ih has]

namespace Move

def lowered (m : Move) : Move :=
  { m with choice := match m.choice with
    | .text name => .text (Text.lowercase name)
    | v => v }

theorem WellTyped.normal (h : m.WellTyped) : m.normal = .ok m.lowered := by
  unfold Move.normal lowered
  rcases h.choice with hnull | ⟨name, htext⟩
  · rw [hnull]
    rfl
  · rw [htext]
    rfl

theorem WellTyped.lowered (h : m.WellTyped) : m.lowered.WellTyped := by
  refine ⟨h.player, h.card, h.spot, h.accept, ?_⟩
  unfold Move.lowered
  rcases h.choice with hnull | ⟨name, htext⟩
  · exact .inl (by rw [hnull])
  · exact .inr ⟨_, by rw [htext]⟩

theorem WellTyped.comparable (h : m.WellTyped) : m.comparable = .ok () := by
  have hfield {v : Value} {α : Type} {f : α → Value} (hf : ∀ a, (f a).comparable = .ok ())
      (hv : v = .null ∨ ∃ a, v = f a) : v.comparable = .ok () := by
    rcases hv with rfl | ⟨a, rfl⟩
    · rfl
    · exact hf a
  refine forM_eq_ok fun v hv => ?_
  simp only [List.mem_cons, List.not_mem_nil, or_false] at hv
  rcases hv with rfl | rfl | rfl | rfl
  · exact hfield (fun _ => rfl) h.player
  · exact hfield (fun _ => rfl) h.card
  · exact hfield (fun _ => rfl) h.spot
  · exact hfield (fun _ => rfl) h.accept

theorem WellTyped.agrees_iff (hm : m.WellTyped) (hn : n.WellTyped) : m.agrees n = true ↔ m = n := by
  have htexts {v w : Value} (hv : v = .null ∨ ∃ a, v = .text a)
      (hw : w = .null ∨ ∃ b, w = .text b) : v.same w = true ↔ v = w := by
    rcases hv with rfl | ⟨a, rfl⟩ <;> rcases hw with rfl | ⟨b, rfl⟩ <;>
      simp [Value.same, Value.isNaN, Value.alike, Value.number?]
  have hspots {v w : Value} (hv : v = .null ∨ ∃ a, v = .int a)
      (hw : w = .null ∨ ∃ b, w = .int b) : v.same w = true ↔ v = w := by
    rcases hv with rfl | ⟨a, rfl⟩ <;> rcases hw with rfl | ⟨b, rfl⟩ <;>
      simp [Value.same, Value.isNaN, Value.alike, Value.number?]
  -- truth values are compared as numbers, but apart from numbers they are told apart
  have hanswers {v w : Value} (hv : v = .null ∨ ∃ a, v = .bool a)
      (hw : w = .null ∨ ∃ b, w = .bool b) : v.same w = true ↔ v = w := by
    rcases hv with rfl | ⟨_ | _, rfl⟩ <;> rcases hw with rfl | ⟨_ | _, rfl⟩ <;>
      simp [Value.same, Value.isNaN, Value.alike, Value.number?]
  unfold agrees
  simp only [Bool.and_eq_true, decide_eq_true_eq, htexts hm.player hn.player, htexts hm.card hn.card,
    htexts hm.choice hn.choice, hspots hm.spot hn.spot, hanswers hm.accept hn.accept]
  constructor
  · rintro ⟨⟨⟨⟨⟨⟨hkind, hplayer⟩, hcard⟩, hspot⟩, hintent⟩, haccept⟩, hchoice⟩
    cases m
    cases n
    simp_all
  · rintro rfl
    simp

end Move

namespace State

/-- A move is legal if one of the list is the same but for the letter case of the choice. -/
theorem exists_isLegal (hlegal : s.legalMoves rules = .ok legal) (htyped : ∀ g ∈ legal, g.WellTyped)
    (hm : m.WellTyped) :
    ∃ b, s.isLegal rules m = .ok b ∧ (b = true ↔ ∃ g ∈ legal, m.lowered = g.lowered) := by
  have hnormal : legal.mapM Move.normal = .ok (legal.map Move.lowered) := by
    rw [mapM_eq_ok, List.forall₂_map_right_iff, List.forall₂_same]
    exact fun g hg => (htyped g hg).normal
  have hcomparable : (legal.map Move.lowered).forM Move.comparable = .ok () := by
    refine forM_eq_ok fun g hg => ?_
    obtain ⟨d, hd, rfl⟩ := List.mem_map.mp hg
    exact (htyped d hd).lowered.comparable
  refine ⟨(legal.map Move.lowered).any m.lowered.agrees, ?_, ?_⟩
  · unfold isLegal
    rw [hm.normal, ok_bind, hlegal, ok_bind, hnormal, ok_bind, hcomparable, ok_bind,
      hm.lowered.comparable]
    rfl
  · simp only [List.any_map, List.any_eq_true, Function.comp_apply]
    refine exists_congr fun g => and_congr_right fun hg => ?_
    exact hm.lowered.agrees_iff (htyped g hg).lowered

end State

def Move.choosing (player : String) (place : Int) (name : String) : Move :=
  { kind := .resolveChoice, player := .text player, intent := some place, choice := .text name }

/-- The player whose turn it is may take a benefit of the choice at a place, by whatever name. -/
structure State.MayTake (s : State String Int) (player : String) (place : Int) (b : Benefit) :
    Prop where
  playing : s.phase = .playing
  current : ∃ p, atSeat? s.players s.seat = some p ∧ player = p.id
  option : ∃ i c, place = Int.ofNat i ∧ s.choices[i]? = some c ∧ b ∈ c.options

namespace State
variable {player name : String} {place : Int}

theorem play_choosing : (∃ r, s.play rules shuffle (.choosing player place name) = .ok r) ↔
    ∃ b, s.MayTake player place b ∧ nameKey b.text = nameKey name := by
  constructor
  · rintro ⟨r, hr⟩
    obtain ⟨p, x, hp, hx, -⟩ := play_eq_ok.mp hr
    have hanswer : s.answerChoice p place (.text name) = .ok x := hx
    obtain ⟨c, name', b, hplace, hc, hname, hb, -⟩ := answerChoice_eq_ok.mp hanswer
    obtain rfl : name' = name := by
      rcases choiceText_eq_ok.mp hname with h | ⟨h, -⟩
      · exact (Value.text.inj h).symm
      · cases h
    exact ⟨b, ⟨hp.playing MoveKind.noConfusion, ⟨p, hp.current, Value.text.inj hp.named⟩,
      place.toNat, c, (Int.toNat_of_nonneg hplace).symm, hc, List.mem_of_find?_eq_some hb⟩,
      nameKey_of_find? hb⟩
  · rintro ⟨b, ⟨hphase, ⟨p, hp, rfl⟩, i, c, rfl, hc, hb⟩, hkey⟩
    obtain ⟨d, hd⟩ := exists_find? hb hkey
    have hmay : s.MayMove (.choosing p.id i name) p := mayMove_of_free hphase hp rfl rfl
    have hanswer : s.answerChoice p i (.text name) = .ok _ :=
      answerChoice_eq_ok.mpr
        ⟨c, name, d, Int.natCast_nonneg i, hc, choiceText_eq_ok.mpr (.inl rfl), hd, rfl⟩
    exact ⟨_, play_eq_ok.mpr ⟨p, _, hmay, hanswer, rfl⟩⟩

end State

theorem Listed.exists_choose (h : Listed rules s p m) (hm : m.kind = .resolveChoice) :
    ∃ i c b, s.choices[i]? = some c ∧ b ∈ c.options ∧ m = .choose p.id i b.text := by
  cases h with
  | choose hc hb => exact ⟨_, _, _, hc, hb, rfl⟩
  | ofHand hk =>
    obtain rfl : _ = MoveKind.resolveChoice := hm
    exact absurd hk (by decide)
  | onSpot hk =>
    obtain rfl : _ = MoveKind.resolveChoice := hm
    obtain ⟨hk, -⟩ | ⟨hk, -⟩ | ⟨hk, -⟩ := hk <;> cases hk
  | ending hk =>
    obtain rfl : _ = MoveKind.resolveChoice := hm
    obtain hk | hk := hk <;> cases hk
  | _ => cases hm

theorem lowered_choosing {player id name text : String} {place : Int} {i : Nat} :
    (Move.choosing player place name).lowered = (Move.choose id i text).lowered ↔
      player = id ∧ place = i ∧ Text.lowercase name = Text.lowercase text := by
  have hvalue : Datum.value id = Value.text id := rfl
  simp [Move.lowered, Move.choosing, Move.choose, hvalue]

theorem Reachable.isLegal_choosing (h : Reachable rules shuffle s) (player : String) (place : Int)
    (name : String) :
    ∃ legal, s.isLegal rules (.choosing player place name) = .ok legal ∧
      (legal = true ↔
        ∃ b, s.MayTake player place b ∧ Text.lowercase b.text = Text.lowercase name) := by
  have hm : (Move.choosing player place name).WellTyped :=
    ⟨.inr ⟨_, rfl⟩, .inl rfl, .inl rfl, .inl rfl, .inr ⟨_, rfl⟩⟩
  by_cases hover : s.phase = .ended ∨ s.players = []
  · have hnone : s.legalMoves rules = .ok [] := State.legalMoves_over hover
    obtain ⟨legal, hlegal, hiff⟩ := State.exists_isLegal hnone (by simp) hm
    refine ⟨legal, hlegal, hiff.trans ⟨by simp, ?_⟩⟩
    rintro ⟨b, hb, -⟩
    obtain ⟨p, hp, -⟩ := hb.current
    have hsome : s.players ≠ [] := List.ne_nil_of_mem (h.seated.mem hp)
    have hplaying : s.phase ≠ .ended := by simp [hb.playing]
    exact absurd hover (not_or.mpr ⟨hplaying, hsome⟩)
  rw [not_or] at hover
  obtain ⟨p, hp⟩ := h.seated.exists_current hover.2
  have hlists : Lists (s.legalMoves rules) _ := State.lists_legalMoves hover.1 hover.2 hp
  obtain ⟨moves, hmoves, hmem⟩ := hlists
  have hlisted {g : Move} (hg : g ∈ moves) :
      Listed rules s p g ∧ (g.kind = .resolveChoice → s.phase = .playing) := by
    have hg := (hmem g).mp hg
    split_ifs at hg with hsetup
    · subst hg
      exact ⟨.ending (.inr rfl), fun hk => by cases hk⟩
    · exact ⟨hg, fun _ => State.playing_of_ne hsetup hover.1⟩
  obtain ⟨legal, hlegal, hiff⟩ :=
    State.exists_isLegal hmoves (fun g hg => (hlisted hg).1.wellTyped) hm
  refine ⟨legal, hlegal, hiff.trans ⟨?_, ?_⟩⟩
  · rintro ⟨g, hg, hsame⟩
    obtain ⟨hlist, hphase⟩ := hlisted hg
    have hk : g.kind = .resolveChoice := (congrArg Move.kind hsame).symm
    obtain ⟨i, c, b, hc, hb, rfl⟩ := hlist.exists_choose hk
    obtain ⟨rfl, rfl, hname⟩ := lowered_choosing.mp hsame
    exact ⟨b, ⟨hphase hk, ⟨p, hp, rfl⟩, i, c, rfl, hc, hb⟩, hname.symm⟩
  · rintro ⟨b, ⟨hphase, ⟨p', hp', rfl⟩, i, c, rfl, hc, hb⟩, hname⟩
    obtain rfl := Option.some.inj (hp.symm.trans hp')
    have hlist : Listed rules s p (.choose p.id i b.text) := .choose hc hb
    exact ⟨_, (hmem _).mpr (by simpa [hphase] using hlist),
      lowered_choosing.mpr ⟨rfl, rfl, hname.symm⟩⟩

theorem lowercase_eq_iff {text name : String} (htext : Text.trim text = text) :
    Text.lowercase text = Text.lowercase name ↔
      nameKey text = nameKey name ∧ Text.trim name = name := by
  constructor
  · intro h
    have hname : Text.trim name = name := by
      rw [← trim_lowercase, ← h]
      exact trim_lowercase.mpr htext
    rw [nameKey, nameKey, htext, hname]
    exact ⟨h, rfl⟩
  · rintro ⟨hkey, hname⟩
    rwa [nameKey, nameKey, htext, hname] at hkey

/-- An answer to a choice is legal just when it is accepted and its text has no blanks around it,
though blanks are nothing that it would be refused for. -/
theorem legal_answer_iff (h : Reachable rules shuffle s) (player : String) (place : Int)
    (name : String) :
    let m := Move.choosing player place name
    ∃ legal, s.isLegal rules m = .ok legal ∧
      (legal = true ↔ (∃ r, s.play rules shuffle m = .ok r) ∧ Text.trim name = name) := by
  intro m
  obtain ⟨legal, hlegal, hiff⟩ := h.isLegal_choosing player place name
  refine ⟨legal, hlegal, hiff.trans ?_⟩
  rw [State.play_choosing, ← exists_and_right]
  refine exists_congr fun b => ?_
  rw [and_assoc]
  refine and_congr_right fun htake => lowercase_eq_iff ?_
  obtain ⟨i, c, -, hc, hb⟩ := htake.option
  obtain ⟨text, prog, hprog, hclause⟩ := h.choice_compiled (List.mem_of_getElem? hc)
  exact trim_of_mem_options hprog hclause hb

/-- The case of an option does not matter. -/
theorem legal_answer_iff_sample :
    ∃ s₀ : State String Int,
      newGame sampleRulebook unshuffled "game" 7 ["Ada", "Ben"] = .ok s₀ ∧
        let s := s₀.run sampleRulebook unshuffled (sampleSteps.take 2)
        let m := Move.choosing "player-1" 1 "+1 DRAW"
        (∃ r, s.play sampleRulebook unshuffled m = .ok r) ∧
          s.isLegal sampleRulebook m = .ok true := by
  obtain ⟨s₀, h⟩ : ∃ s₀ : State String Int,
      newGame sampleRulebook unshuffled "game" 7 ["Ada", "Ben"] = .ok s₀ := ⟨_, rfl⟩
  let s := s₀.run sampleRulebook unshuffled (sampleSteps.take 2)
  let m := Move.choosing "player-1" 1 "+1 DRAW"
  have hok : (s.play sampleRulebook unshuffled m).isOk = true := by
    subst s
    obtain rfl := Except.ok.inj h
    decide +kernel
  obtain ⟨legal, hlegal, hiff⟩ := legal_answer_iff
    (Reachable.run (.deal h) (sampleSteps.take 2)) "player-1" 1 "+1 DRAW"
  have haccepted : ∃ r, s.play sampleRulebook unshuffled m = .ok r := exists_of_isOk hok
  obtain rfl := hiff.mpr ⟨haccepted, by decide +kernel⟩
  exact ⟨s₀, h, haccepted, hlegal⟩

/-- With a blank before it an option is taken, though the answer is not legal. -/
theorem padded_answer_not_legal :
    ∃ s₀ : State String Int,
      newGame soloRulebook Shuffle.seeded "game" 7 ["Ada"] = .ok s₀ ∧
        let s := s₀.run soloRulebook Shuffle.seeded (sampleSteps.take 2)
        let m := Move.choosing "player-1" 1 " +1 draw"
        (∃ r, s.play soloRulebook Shuffle.seeded m = .ok r) ∧
          s.isLegal soloRulebook m = .ok false := by
  obtain ⟨s₀, h, hplain⟩ := newGame_solo
  let s := s₀.run soloRulebook Shuffle.seeded (sampleSteps.take 2)
  let m := Move.choosing "player-1" 1 " +1 draw"
  have hsample : (s.play soloRulebook Shuffle.seeded m).isOk = true ∧
      (match s.isLegal soloRulebook m with
        | .ok legal => !legal
        | .error _ => false) = true := by
    subst s
    obtain rfl := Except.ok.inj hplain
    decide +kernel
  obtain ⟨hok, hnot⟩ := hsample
  refine ⟨s₀, h, exists_of_isOk hok, ?_⟩
  cases hlegal : s.isLegal soloRulebook m with
  | error why =>
    rw [hlegal] at hnot
    cases hnot
  | ok legal =>
    rw [hlegal, Bool.not_eq_true'] at hnot
    exact congrArg Except.ok hnot

end GuildCards
