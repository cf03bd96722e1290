import Mathlib
import GuildCards.Proofs.Effect.Reread
import GuildCards.Proofs.Play.Run
import GuildCards.Proofs.State.Stored

/-!
Whatever document is read, what is read of it is read again from what is written. A document may lack
fields, and its questions may hold texts that no game would write; to read it once takes all that away.
No card is lost: where the document lists ids, the state has cards of these ids in the same order.
-/
namespace GuildCards
open Document Effect

variable {rules : Rulebook String} {d v : Value}

section Cards
variable {z : Zone String} {c : Card String}

theorem eq_text_of_is {s : String} (h : Datum.is s v = true) : v = .text s := by
  cases v with
  | text t => simpa [eq_comm] using h
  | _ => simp [Datum.is, Datum.value, Value.same, Value.isNaN, Value.alike, Value.number?] at h

theorem cardOf_eq_ok (h : rules.cardOf v = .ok c) :
    v = .text c.id ∧ rules.card? (.text c.id) = some c := by
  unfold Rulebook.cardOf at h
  obtain ⟨-, -, h⟩ := bind_eq_ok.mp h
  cases hc : rules.card? v with
  | none =>
    rw [hc] at h
    cases h
  | some x =>
    rw [hc] at h
    obtain rfl := pure_eq_ok.mp h
    have hid : v = .text c.id := by
      unfold Rulebook.card? Zone.named? at hc
      exact eq_text_of_is (by simpa using List.find?_some hc)
    exact ⟨hid, hid ▸ hc⟩

theorem zone_shown (h : Zone.ofRecord rules v = .ok z) :
    v.toItems = .ok (z.ids.map Value.text) ∧ Known rules z := by
  obtain ⟨vs, hvs, h⟩ := bind_eq_ok.mp h
  have hcards : List.Forall₂ (fun w c => w = .text c.id ∧ rules.card? (.text c.id) = some c) vs z :=
    (mapM_eq_ok.mp h).imp fun w c => cardOf_eq_ok
  have hids : vs = z.ids.map Value.text := by
    rw [← List.forall₂_eq_eq_eq, Zone.ids, List.map_map, List.forall₂_map_right_iff]
    exact hcards.imp fun w c hc => hc.1
  refine ⟨hids ▸ hvs, fun c hc => ?_⟩
  obtain ⟨w, -, hw⟩ := exists_of_mem_mapM h hc
  exact (cardOf_eq_ok hw).2

theorem field_shown {name : String} (h : Zone.ofField rules v name = .ok z) :
    v.itemsOf name = .ok (z.ids.map Value.text) ∧ Known rules z := zone_shown h

end Cards

section Piles
variable {ps qs : Piles String} {fs : Fields} {g k : Guild}

theorem toGuild_eq_ok {name : String} (h : (Value.text name).toGuild = .ok g) : name = g.name := by
  unfold Value.toGuild Value.text? Guild.ofName? at h
  rw [Option.bind_some] at h
  split at h
  · rename_i hfind
    obtain rfl := Except.ok.inj h
    have hname := List.find?_some hfind
    exact (of_decide_eq_true hname).symm
  · cases h

theorem Guild.name_inj (h : k.name = g.name) : k = g := by
  cases k <;> cases g <;> first | rfl | simp [Guild.name] at h

theorem get?_of_not_mem {name : String} (h : name ∉ Keyed.names fs) : Keyed.get? fs name = none := by
  induction fs with
  | nil => rfl
  | cons f fs ih =>
    obtain ⟨hne, hrest⟩ : name ≠ f.1 ∧ name ∉ Keyed.names fs := not_or.mp (List.mem_cons.not.mp h)
    rw [Keyed.get?_cons, if_neg (Ne.symm hne), ih hrest]

theorem piles_read (h : Piles.ofFields rules ps fs = .ok qs) (hfs : (Keyed.names fs).Nodup)
    (g : Guild) :
    (∀ v, Keyed.get? fs g.name = some v → Zone.ofRecord rules v = .ok (qs.get g)) ∧
      (Keyed.get? fs g.name = none → qs.get g = ps.get g) := by
  induction fs generalizing ps with
  | nil =>
    obtain rfl := pure_eq_ok.mp h
    exact ⟨fun v hv => (nomatch hv), fun _ => rfl⟩
  | cons f fs ih =>
    obtain ⟨name, w⟩ := f
    obtain ⟨hnew, hnames⟩ := List.nodup_cons.mp hfs
    unfold Piles.ofFields at h
    rw [List.foldlM_cons] at h
    obtain ⟨qs', hset, hrest⟩ := bind_eq_ok.mp h
    obtain ⟨k, hk, hset⟩ := bind_eq_ok.mp hset
    obtain ⟨z, hz, hset⟩ := bind_eq_ok.mp hset
    obtain rfl := pure_eq_ok.mp hset
    obtain rfl := toGuild_eq_ok hk
    obtain ⟨hfound, hnone⟩ := ih hrest hnames
    rw [Keyed.get?_cons]
    by_cases hg : k = g
    -- no later field has this name, so the pile stays as it is set here
    · subst hg
      rw [if_pos rfl]
      refine ⟨fun v hv => ?_, fun hv => (nomatch hv)⟩
      obtain rfl := Option.some.inj hv
      rw [hnone (get?_of_not_mem hnew), Piles.get_set, if_pos rfl]
      exact hz
    · rw [if_neg fun hname => hg (Guild.name_inj hname)]
      refine ⟨hfound, fun hv => ?_⟩
      rw [hnone hv, Piles.get_set, if_neg (Ne.symm hg)]

theorem pile_shown (hv : v.toFields "items" = .ok fs) (h : Piles.ofFields rules {} fs = .ok qs)
    (hfs : (Keyed.names fs).Nodup) (g : Guild) :
    v.itemsOf g.name = .ok ((Zone.ids (qs.get g)).map Value.text) ∧ Known rules (qs.get g) := by
  obtain rfl : v = .object fs := by
    cases v with
    | object gs => rw [Except.ok.inj hv]
    | _ => cases hv
  obtain ⟨hfound, hnone⟩ := piles_read h hfs g
  cases hget : Keyed.get? fs g.name with
  | none =>
    have hempty : qs.get g = [] := by
      rw [hnone hget]
      cases g <;> rfl
    have hitems : (Value.object fs).itemsOf g.name = .ok [] := by
      simp only [Value.itemsOf, Value.fieldOr, Value.get?, Value.object?, Option.bind_some, hget]
      rfl
    rw [hempty]
    exact ⟨hitems, fun c hc => absurd hc List.not_mem_nil⟩
  | some w =>
    have hitems : (Value.object fs).itemsOf g.name = w.toItems := by
      simp only [Value.itemsOf, Value.fieldOr, Value.get?, Value.object?, Option.bind_some, hget,
        Option.getD_some]
    rw [hitems]
    exact zone_shown (hfound w hget)

end Piles

/-- The ids of a player's cards are those that the document lists, zone by zone and pile by pile. -/
structure Player.Shows (p : Player String Int) (v : Value) : Prop where
  hand : v.itemsOf "hand" = .ok (p.hand.ids.map Value.text)
  deck : v.itemsOf "deck" = .ok (p.deck.ids.map Value.text)
  discard : v.itemsOf "discard" = .ok (p.discard.ids.map Value.text)
  exile : v.itemsOf "exile" = .ok (p.exile.ids.map Value.text)
  piles : ∀ g : Guild, (v.fieldOr "guild_piles" (.object [])).itemsOf g.name =
    .ok ((Zone.ids (p.piles.get g)).map Value.text)

/-- The ids of all cards of a state are those that the document lists, for the common deck and for one
player after the other. A list that is missing is empty. -/
structure State.Shows (s : State String Int) (d : Value) : Prop where
  common : d.itemsOf "common_deck" = .ok (s.common.ids.map Value.text)
  players : ∃ vs, d.itemsOf "players" = .ok vs ∧ List.Forall₂ Player.Shows s.players vs

/-- No player of the document has two piles of one name, since no object has two fields of one. -/
def Document.Value.NamesPilesOnce (d : Value) : Prop :=
  ∀ vs, d.itemsOf "players" = .ok vs → ∀ v ∈ vs, ∀ fs,
    v.get? "guild_piles" = some (.object fs) → (Keyed.names fs).Nodup

section Players
variable {p : Player String Int}

theorem player_read (h : Player.ofRecord rules v = .ok p)
    (hv : ∀ fs, v.get? "guild_piles" = some (.object fs) → (Keyed.names fs).Nodup) :
    p.Shows v ∧ Known rules p.cards := by
  unfold Player.ofRecord at h
  simp only [bind_eq_ok] at h
  obtain ⟨-, -, fs, hfs, ps, hps, -, -, id, -, -, -, name, -, hand, hhand, deck, hdeck, discard,
    hdiscard, exile, hexile, counters, -, armies, -, outposts, -, hp⟩ := h
  obtain rfl := pure_eq_ok.mp hp
  have hnames : (Keyed.names fs).Nodup := by
    unfold Value.fieldOr at hfs
    cases hget : v.get? "guild_piles" with
    | none =>
      rw [hget] at hfs
      obtain rfl := Except.ok.inj hfs
      exact List.nodup_nil
    | some w =>
      rw [hget, Option.getD_some] at hfs
      cases w with
      | object gs =>
        obtain rfl := Except.ok.inj hfs
        exact hv gs hget
      | _ => cases hfs
  have hpile (g : Guild) := pile_shown hfs hps hnames g
  refine ⟨⟨(field_shown hhand).1, (field_shown hdeck).1, (field_shown hdiscard).1,
    (field_shown hexile).1, fun g => (hpile g).1⟩, fun c hc => ?_⟩
  simp only [Player.cards, List.mem_append, or_assoc] at hc
  rcases hc with hc | hc | hc | hc | hc
  · exact (field_shown hhand).2 c hc
  · exact (field_shown hdeck).2 c hc
  · exact (field_shown hdiscard).2 c hc
  · exact (field_shown hexile).2 c hc
  · obtain ⟨g, -, hc⟩ := List.mem_flatMap.mp hc
    exact (hpile g).2 c hc

end Players

section Questions
variable {α : Type} {select : Clause → Option α} {a : α}

theorem question_reread {clause : α → Clause} (hselect : ∀ c a, select c = some a → c = clause a)
    (hknown : (clause a).unrecognized? = none) (h : recompile select v = .ok a) :
    Clause.compile (clause a).source = .ok (clause a) := by
  obtain ⟨text, -, h⟩ := bind_eq_ok.mp h
  obtain ⟨c, hc, h⟩ := bind_eq_ok.mp h
  cases hfound : select c with
  | none =>
    rw [hfound] at h
    cases h
  | some b =>
    rw [hfound] at h
    obtain rfl := pure_eq_ok.mp h
    obtain rfl := hselect c _ hfound
    exact Effect.recompile (mapError_eq_ok.mp hc) hknown

theorem choice_reread {c : Choice} (h : recompile Clause.choice? v = .ok c) :
    Clause.compile c.source = .ok (.choice c) := by
  have hselect (x : Clause) (y : Choice) (hx : x.choice? = some y) : x = .choice y := by
    cases x <;> cases hx
    rfl
  exact question_reread hselect rfl h

theorem conditional_reread {c : Conditional} (h : recompile Clause.conditional? v = .ok c) :
    Clause.compile c.source = .ok (.conditional c) := by
  have hselect (x : Clause) (y : Conditional) (hx : x.conditional? = some y) :
      x = .conditional y := by
    cases x <;> cases hx
    rfl
  exact question_reread hselect rfl h

theorem deferred_reread {x : Deferred} (h : Deferred.ofRecord v = .ok x) :
    Clause.compile x.intent.source = .ok (.conditional x.intent) ∧ x.intent.Recalls x.benefit := by
  unfold Deferred.ofRecord at h
  simp only [bind_eq_ok] at h
  obtain ⟨w, -, intent, hintent, name, -, h⟩ := h
  have hcompile := conditional_reread hintent
  split_ifs at h with hnested
  · obtain rfl := pure_eq_ok.mp h
    refine ⟨hcompile, ?_⟩
    rw [Conditional.Recalls, if_pos (List.isEmpty_iff.mp hnested)]
  · split at h
    · obtain rfl := pure_eq_ok.mp h
      exact ⟨hcompile, Conditional.recalls_find? hcompile fun hnil => hnested (by rw [hnil]; rfl)⟩
    · cases h

end Questions

namespace State
variable {s : State String Int}

structure ReadFrom (rules : Rulebook String) (d : Value) (s : State String Int) : Prop where
  common : Zone.ofField rules d "common_deck" = .ok s.common
  players : ∃ vs, d.itemsOf "players" = .ok vs ∧ vs.mapM (Player.ofRecord rules) = .ok s.players
  choices : ∃ vs : List Value, vs.mapM (recompile Clause.choice?) = .ok s.choices
  conditionals : ∃ vs : List Value, vs.mapM (recompile Clause.conditional?) = .ok s.conditionals
  deferred : ∀ x, s.deferred = some x → ∃ v, Deferred.ofRecord v = .ok x
  history : ∃ vs : List Value, vs.mapM Move.ofRecord = .ok s.history

theorem readFrom (h : State.ofRecord rules d = .ok s) : s.ReadFrom rules d := by
  unfold State.ofRecord at h
  simp only [bind_eq_ok] at h
  obtain ⟨-, -, h⟩ := h
  by_cases hversion : (d.fieldOr "format_version" (.int formatVersion)).same (.int formatVersion) = true
  case neg =>
    rw [Bool.not_eq_true] at hversion
    simp only [hversion, Bool.not_false, if_true] at h
    cases h
  simp only [hversion, Bool.not_true, Bool.false_eq_true, if_false, bind_eq_ok] at h
  obtain ⟨ps, hps, players, hplayers, cs, hcs, conditionals, hconditionals, h⟩ := h
  -- the rest is read in the same way, whether a conditional is deferred or none
  split at h
  all_goals
    simp only [bind_eq_ok] at h
    obtain ⟨deferred, hdeferred, -, -, id, -, -, -, rulebook, -, phase, -, turn, -, seat, -, common,
      hcommon, market, -, -, -, spots, -, qs, -, choices, hchoices, ms, -, history, hhistory, seed, -,
      shuffles, -, notes, -, h⟩ := h
    obtain rfl := pure_eq_ok.mp h
    refine ⟨hcommon, ⟨ps, hps, hplayers⟩, ⟨qs, hchoices⟩, ⟨cs, hconditionals⟩, ?_, ⟨ms, hhistory⟩⟩
    rintro x rfl
  · cases hread : Deferred.ofRecord (d.fieldOr "deferred_conditional" .null) with
    | error why =>
      rw [hread] at hdeferred
      cases hdeferred
    | ok y =>
      rw [hread] at hdeferred
      obtain rfl := Option.some.inj (Except.ok.inj hdeferred)
      exact ⟨_, hread⟩
  · cases hdeferred

theorem move_spot {m : Move} (h : Move.ofRecord v = .ok m) :
    m.spot = .null ∨ ∃ n, m.spot = .int n := by
  unfold Move.ofRecord at h
  split at h
  · split at h
    · obtain ⟨kind, -, h⟩ := bind_eq_ok.mp h
      obtain ⟨spot, -, h⟩ := bind_eq_ok.mp h
      obtain ⟨intent, -, h⟩ := bind_eq_ok.mp h
      obtain rfl := pure_eq_ok.mp h
      cases spot with
      | none => exact .inl rfl
      | some n => exact .inr ⟨n, rfl⟩
    · cases h
  · cases h

theorem ReadFrom.storable (h : s.ReadFrom rules d) (hd : d.NamesPilesOnce) :
    s.Shows d ∧ s.Storable rules := by
  obtain ⟨vs, hvs, hplayers⟩ := h.players
  obtain ⟨hcommon, hknown⟩ := field_shown h.common
  have hread {v : Value} (hv : v ∈ vs) {p : Player String Int}
      (hp : Player.ofRecord rules v = .ok p) : p.Shows v ∧ Known rules p.cards :=
    player_read hp (hd vs hvs v hv)
  have hshown : List.Forall₂ Player.Shows s.players vs := by
    have hboth := (List.forall₂_and_left _ _).mpr ⟨fun v hv => hv, mapM_eq_ok.mp hplayers⟩
    exact (hboth.imp fun v p hp => (hread hp.1 hp.2).1).flip
  refine ⟨⟨hcommon, vs, hvs, hshown⟩, ?_, fun c hc => ?_, fun c hc => ?_, fun x hx => ?_,
    fun m hm => ?_⟩
  · intro c hc
    rcases List.mem_append.mp hc with hc | hc
    · exact hknown c hc
    · obtain ⟨p, hp, hc⟩ := List.mem_flatMap.mp hc
      obtain ⟨v, hv, hpv⟩ := exists_of_mem_mapM hplayers hp
      exact (hread hv hpv).2 c hc
  · obtain ⟨ws, hchoices⟩ := h.choices
    obtain ⟨w, -, hw⟩ := exists_of_mem_mapM hchoices hc
    exact choice_reread hw
  · obtain ⟨ws, hconditionals⟩ := h.conditionals
    obtain ⟨w, -, hw⟩ := exists_of_mem_mapM hconditionals hc
    exact conditional_reread hw
  · obtain ⟨w, hw⟩ := h.deferred x hx
    exact deferred_reread hw
  · obtain ⟨ws, hhistory⟩ := h.history
    obtain ⟨w, -, hw⟩ := exists_of_mem_mapM hhistory hm
    exact move_spot hw

end State

/-- Every document that is read is read for good: the state has, zone by zone and pile by pile, cards
of the ids that the document lists and in their order; and what is written of the state is read as
the same state. -/
theorem read_for_good {s : State String Int} (hd : d.NamesPilesOnce)
    (h : State.ofRecord rules d = .ok s) :
    s.Shows d ∧ State.ofRecord rules s.toRecord = .ok s := by
  obtain ⟨hshows, hstorable⟩ := (State.readFrom h).storable hd
  exact ⟨hshows, State.ofRecord_toRecord hstorable⟩

/-- A document that no game writes: most of its fields are missing, its texts have periods and blanks
around them, and the deferred benefit is none that its conditional nests. -/
def editedDocument : Value :=
  .object [
    ("game_id", .text "game"), ("spec_id", .text "sample"),
    ("common_deck", .texts ["royal-red", "military-blue"]),
    ("players", .list [.object [
      ("player_id", .text "player-1"), ("name", .text "Ada"), ("hand", .texts ["royal-blue"]),
      ("guild_piles", .object [("royal", .texts ["royal-green"])])]]),
    ("pending_choices", .texts [". +1 draw. or +1 take . "]),
    ("deferred_conditional", .object [
      ("intent", .text ".Discard 1 card -> +1 army or. +1 VP"), ("benefit", .text "+1 gold")])]

theorem read_for_good_sample :
    editedDocument.NamesPilesOnce ∧
      ∃ s : State String Int, State.ofRecord sampleRulebook editedDocument = .ok s ∧
        s.choices.map (·.source) = ["+1 draw. or +1 take"] ∧
        (s.deferred.map (·.benefit.text)) = some "+1 army or. +1 VP" ∧
        s.Shows editedDocument ∧ State.ofRecord sampleRulebook s.toRecord = .ok s := by
  have hnames : editedDocument.NamesPilesOnce := by
    intro vs hvs v hv fs hfs
    obtain rfl := Except.ok.inj hvs
    obtain rfl := List.mem_singleton.mp hv
    obtain rfl := Value.object.inj (Option.some.inj hfs)
    decide
  have hread : ((State.ofRecord (ν := Int) sampleRulebook editedDocument).toOption.any fun s =>
      decide (s.choices.map (·.source) = ["+1 draw. or +1 take"] ∧
        (s.deferred.map (·.benefit.text)) = some "+1 army or. +1 VP")) = true := by
    decide +kernel
  cases h : State.ofRecord (ν := Int) sampleRulebook editedDocument with
  | error why =>
    rw [h] at hread
    cases hread
  | ok s =>
    rw [h] at hread
    obtain ⟨hchoices, hdeferred⟩ := of_decide_eq_true hread
    exact ⟨hnames, s, rfl, hchoices, hdeferred, read_for_good hnames h⟩

end GuildCards
