import Mathlib
import GuildCards.Proofs.Effect.Names
import GuildCards.State.Record

/-!
What is written is read again, part by part. Cards come back through the catalog, so the catalog
must have them and no two under one id; everything else comes back by itself.
-/
namespace GuildCards
open Document Effect

variable {rules : Rulebook String}

theorem mapM_eq_ok_self {ε α β : Type} {f : α → Except ε β} {g : β → α} {bs : List β}
    (h : ∀ b ∈ bs, f (g b) = .ok b) : (bs.map g).mapM f = .ok bs := by
  rw [List.mapM_map]
  induction bs with
  | nil => rfl
  | cons b bs ih =>
    rw [List.mapM_cons, Function.comp_apply, h b List.mem_cons_self, ok_bind,
      ih fun c hc => h c (List.mem_cons_of_mem b hc)]
    rfl

@[simp] theorem read_text (name s : String) :
    (Datum.read name (.text s) : Except Fault String) = .ok s := rfl

@[simp] theorem read_int (name : String) (n : Int) :
    (Datum.read name (.int n) : Except Fault Int) = .ok n := rfl

def Known (rules : Rulebook String) (cards : List (Card String)) : Prop :=
  ∀ c ∈ cards, rules.card? (.text c.id) = some c

theorem Known.subset {as bs : List (Card String)} (h : Known rules bs) (hs : as ⊆ bs) :
    Known rules as := fun c hc => h c (hs hc)

theorem Zone.ofRecord_toRecord {z : Zone String} (h : Known rules z) :
    Zone.ofRecord rules (Zone.toRecord z) = .ok z := by
  have hmap : z.ids.map Datum.value = z.map fun c => Value.text c.id := by
    rw [Zone.ids, List.map_map]
    rfl
  unfold Zone.ofRecord Zone.toRecord
  rw [Value.ofList, hmap]
  apply mapM_eq_ok_self
  intro c hc
  simp only [Rulebook.cardOf, h c hc]
  rfl

theorem Piles.ofFields_toRecord {ps : Piles String} (h : Known rules ps.cards) :
    Piles.ofFields rules {} (Guild.all.map fun g => (g.name, Zone.toRecord (ps.get g))) =
      .ok ps := by
  have hpile (g : Guild) : Zone.ofRecord rules (Zone.toRecord (ps.get g)) = .ok (ps.get g) := by
    have hall : g ∈ Guild.all := by cases g <;> decide
    exact Zone.ofRecord_toRecord (h.subset fun c hc => List.mem_flatMap.mpr ⟨g, hall, hc⟩)
  have hguild (g : Guild) : (Value.text g.name).toGuild = .ok g := by
    cases g <;> rfl
  simp only [Piles.ofFields, Guild.all, List.map_cons, List.map_nil, List.foldlM_cons,
    List.foldlM_nil, hguild, hpile, ok_bind]
  rfl

theorem Counters.ofRecord_toRecord (cs : Counters Int) :
    Counters.ofRecord cs.toRecord = .ok cs := by
  cases cs
  rfl

theorem read_ints (name : String) (ns : List Int) :
    (ns.map Datum.value).mapM (Datum.read (α := Int) name) = .ok ns :=
  mapM_eq_ok_self fun _ _ => rfl

theorem Spot.ofRecord_toRecord (x : Spot String Int) : Spot.ofRecord x.toRecord = .ok x := by
  have hid : x.toRecord.field "id" = .ok (.int x.id) := rfl
  have hkind : x.toRecord.field "kind" = .ok (.text x.kind.name) := rfl
  have hkind' : (Value.text x.kind.name).toSpotKind = .ok x.kind := by
    cases x.kind <;> rfl
  have hrow : x.toRecord.field "row" = .ok (.int x.row) := rfl
  have hcolumn : x.toRecord.field "col" = .ok (.int x.column) := rfl
  have hadjacent : x.toRecord.readItems "adjacent" = .ok x.adjacent :=
    read_ints "adjacent" x.adjacent
  have hholder : ((x.toRecord.get? "occupying_player").bind Value.given?).mapM
      (Datum.read (α := String) "occupying_player") = (.ok x.holder : Except Fault _) := by
    change (x.holderValue.given?).mapM _ = _
    unfold holderValue
    cases x.holder <;> rfl
  have harmies : x.toRecord.readOr "army_count" (.int 0) = .ok x.armies := rfl
  simp only [Spot.ofRecord, hid, hkind, hkind', hrow, hcolumn, hadjacent, hholder, harmies, ok_bind,
    read_int]
  rfl

theorem Player.ofRecord_toRecord {p : Player String Int} (h : Known rules p.cards) :
    Player.ofRecord rules p.toRecord = .ok p := by
  have hzone {z : Zone String} (hz : z ⊆ p.cards) : Zone.ofRecord rules z.toRecord = .ok z :=
    Zone.ofRecord_toRecord (h.subset hz)
  have hpiles := Piles.ofFields_toRecord (h.subset fun c hc => List.mem_append_right _ hc)
  have hhand : Zone.ofField rules p.toRecord "hand" = .ok p.hand :=
    hzone fun c hc => by simp [cards, hc]
  have hdeck : Zone.ofField rules p.toRecord "deck" = .ok p.deck :=
    hzone fun c hc => by simp [cards, hc]
  have hdiscard : Zone.ofField rules p.toRecord "discard" = .ok p.discard :=
    hzone fun c hc => by simp [cards, hc]
  have hexile : Zone.ofField rules p.toRecord "exile" = .ok p.exile :=
    hzone fun c hc => by simp [cards, hc]
  have hid : p.toRecord.field "player_id" = .ok (.text p.id) := rfl
  have hname : p.toRecord.field "name" = .ok (.text p.name) := rfl
  have hcounters : Counters.ofRecord (p.toRecord.fieldOr "resources" (.object [])) =
      .ok p.counters := Counters.ofRecord_toRecord p.counters
  have harmies : p.toRecord.readOr "armies" (.int 0) = .ok p.armies := rfl
  have houtposts : p.toRecord.readItems "outposts" = .ok p.outposts :=
    read_ints "outposts" p.outposts
  have hfields : p.toRecord.toFields "get" = .ok _ := rfl
  have hpiles' : (p.toRecord.fieldOr "guild_piles" (.object [])).toFields "items" =
      .ok (Guild.all.map fun g => (g.name, Zone.toRecord (p.piles.get g))) := rfl
  simp only [Player.ofRecord, hfields, hpiles', hpiles, hhand, hdeck, hdiscard, hexile, hid, hname,
    hcounters, harmies, houtposts, ok_bind, read_text]
  rfl

namespace Move

/-- Every field is null or of the kind that moves are made with. -/
structure WellTyped (m : Move) : Prop where
  player : m.player = .null ∨ ∃ s, m.player = .text s
  card : m.card = .null ∨ ∃ s, m.card = .text s
  spot : m.spot = .null ∨ ∃ n, m.spot = .int n
  accept : m.accept = .null ∨ ∃ b, m.accept = .bool b
  choice : m.choice = .null ∨ ∃ s, m.choice = .text s

theorem get?_append (as bs : Fields) (name : String) :
    Keyed.get? (as ++ bs) name = (Keyed.get? as name).or (Keyed.get? bs name) := by
  induction as with
  | nil => rfl
  | cons a as ih =>
    obtain ⟨k, v⟩ := a
    rw [List.cons_append, Keyed.get?_cons, Keyed.get?_cons, ih]
    split <;> rfl

theorem get?_sent (name other : String) (v : Value) :
    Keyed.get? (sent name v) other = if name = other then v.given? else none := by
  unfold sent Value.given?
  cases v.isNull <;> simp [Keyed.get?_cons]

theorem given?_given? (v : Value) : v.given?.bind Value.given? = v.given? := by
  unfold Value.given?
  cases h : v.isNull <;> simp [h]

theorem get?_toRecord (m : Move) (name : String) :
    (m.toRecord.get? name) =
      if name = "type" then some (.text m.kind.name)
      else if name = "playerId" then m.player.given?
      else if name = "cardId" then m.card.given?
      else if name = "spotId" then m.spot.given?
      else if name = "intentIndex" then (Value.ofOption Value.int m.intent).given?
      else if name = "accept" then m.accept.given?
      else if name = "choice" then m.choice.given?
      else none := by
  simp only [toRecord, Value.get?, Value.object?, Option.bind_some, toFields, get?_append,
    List.cons_append, Keyed.get?_cons, get?_sent, eq_comm (b := name)]
  split_ifs <;> simp_all

theorem firstSent_eq {r v : Value} {name : String} {others : List String}
    (h : r.get? name = v.given?) (ho : ∀ other ∈ others, r.get? other = none) :
    firstSent r (name :: others) = v := by
  have hnone : others.findSome? (fun n => (r.get? n).bind Value.given?) = none := by
    rw [List.findSome?_eq_none_iff]
    intro other hother
    rw [ho other hother]
    rfl
  rw [firstSent, List.findSome?_cons, h, given?_given?, hnone]
  cases v <;> rfl

theorem ofRecord_of_spot {m : Move} (h : m.spot = .null ∨ ∃ n, m.spot = .int n) :
    Move.ofRecord m.toRecord = .ok m := by
  have hkind : kindOf (.text m.kind.name) = .ok m.kind := by
    cases m.kind <;> rfl
  have hspot : toNumber? m.spot = .ok m.spot.int? ∧
      Value.ofOption Value.int m.spot.int? = m.spot := by
    rcases h with hs | ⟨n, hs⟩ <;> rw [hs] <;> exact ⟨rfl, rfl⟩
  have hintent : toNumber? (.ofOption .int m.intent) = .ok m.intent := by
    cases m.intent <;> rfl
  have htype : Keyed.get? m.toFields "type" = some (.text m.kind.name) := get?_toRecord m "type"
  have hplayer : firstSent m.toRecord ["playerId", "player_id"] = m.player :=
    firstSent_eq (get?_toRecord m "playerId") (by simp [get?_toRecord])
  have hcard : firstSent m.toRecord ["cardId", "card_id"] = m.card :=
    firstSent_eq (get?_toRecord m "cardId") (by simp [get?_toRecord])
  have hspot' : firstSent m.toRecord ["spotId", "spot_id"] = m.spot :=
    firstSent_eq (get?_toRecord m "spotId") (by simp [get?_toRecord])
  have hintent' : firstSent m.toRecord ["intentIndex", "intent_index"] = .ofOption .int m.intent :=
    firstSent_eq (get?_toRecord m "intentIndex") (by simp [get?_toRecord])
  have haccept : firstSent m.toRecord ["accept"] = m.accept :=
    firstSent_eq (get?_toRecord m "accept") (by simp)
  have hchoice : firstSent m.toRecord ["choice"] = m.choice :=
    firstSent_eq (get?_toRecord m "choice") (by simp)
  have hobject : m.toRecord.object? = some m.toFields := rfl
  simp only [ofRecord, hobject, htype, hkind, hplayer, hcard, hspot', hintent', haccept, hchoice,
    hspot.1, hspot.2, hintent, ok_bind]
  rfl

theorem ofRecord_toRecord {m : Move} (h : m.WellTyped) : Move.ofRecord m.toRecord = .ok m :=
  ofRecord_of_spot h.spot

end Move

theorem recompile_source {α : Type} {select : Clause → Option α} {c : Clause} {a : α}
    (hc : Clause.compile c.source = .ok c) (ha : select c = some a) :
    recompile select (.text c.source) = .ok a := by
  simp only [recompile, Value.toEffectText, ok_bind, hc, Except.mapError, ha]
  rfl

theorem Deferred.ofRecord_toRecord {d : Deferred}
    (hc : Clause.compile d.intent.source = .ok (.conditional d.intent))
    (hb : d.intent.Recalls d.benefit) : Deferred.ofRecord d.toRecord = .ok d := by
  have hintent : d.toRecord.field "intent" = .ok (.text d.intent.source) := rfl
  have hbenefit : d.toRecord.field "benefit" = .ok (.text d.benefit.text) := rfl
  have hrecompile : recompile Clause.conditional? (.text d.intent.source) = .ok d.intent :=
    recompile_source (c := .conditional d.intent) hc rfl
  unfold Conditional.Recalls at hb
  simp only [Deferred.ofRecord, hintent, hbenefit, hrecompile, ok_bind, List.isEmpty_iff]
  split_ifs at hb ⊢
  · rw [← hb]
    rfl
  · rw [hb]
    rfl

/-- A state that can be read again: its cards are in the catalog, its questions are written by their
text, its deferred benefit is found by its own, and the moves of its history name spots by number. -/
structure State.Storable (rules : Rulebook String) (s : State String Int) : Prop where
  cards : Known rules s.cards
  choices : ∀ c ∈ s.choices, Clause.compile c.source = .ok (.choice c)
  conditionals : ∀ c ∈ s.conditionals, Clause.compile c.source = .ok (.conditional c)
  deferred : ∀ d, s.deferred = some d →
    Clause.compile d.intent.source = .ok (.conditional d.intent) ∧ d.intent.Recalls d.benefit
  history : ∀ m ∈ s.history, m.spot = .null ∨ ∃ n, m.spot = .int n

theorem State.ofRecord_toRecord {s : State String Int} (h : s.Storable rules) :
    State.ofRecord rules s.toRecord = .ok s := by
  have hplayers : (s.players.map Player.toRecord).mapM (Player.ofRecord rules) = .ok s.players :=
    mapM_eq_ok_self fun p hp => Player.ofRecord_toRecord (h.cards.subset fun c hc =>
      List.mem_append_right _ (List.mem_flatMap.mpr ⟨p, hp, hc⟩))
  have hcommon : Zone.ofField rules s.toRecord "common_deck" = .ok s.common :=
    Zone.ofRecord_toRecord (h.cards.subset fun c hc => List.mem_append_left _ hc)
  have hchoices : (s.choices.map fun c => .text c.source).mapM (recompile Clause.choice?) =
      .ok s.choices :=
    mapM_eq_ok_self fun c hc => recompile_source (c := .choice c) (h.choices c hc) rfl
  have hconditionals : (s.conditionals.map fun c => .text c.source).mapM
      (recompile Clause.conditional?) = .ok s.conditionals :=
    mapM_eq_ok_self fun c hc => recompile_source (c := .conditional c) (h.conditionals c hc) rfl
  have hspots : (s.spots.map Spot.toRecord).mapM Spot.ofRecord = .ok s.spots :=
    mapM_eq_ok_self fun x _ => Spot.ofRecord_toRecord x
  have hhistory : (s.history.map Move.toRecord).mapM Move.ofRecord = .ok s.history :=
    mapM_eq_ok_self fun m hm => Move.ofRecord_of_spot (h.history m hm)
  have hphase : (s.toRecord.fieldOr "phase" (.text Phase.setup.name)).toPhase = .ok s.phase := by
    change (Value.text s.phase.name).toPhase = .ok s.phase
    cases s.phase <;> rfl
  have hfields : s.toRecord.toFields "get" = .ok _ := rfl
  have hversion : (s.toRecord.fieldOr "format_version" (.int formatVersion)).same
      (.int formatVersion) = true := rfl
  have hitems (name : String) (vs : List Value) (hget : s.toRecord.get? name = some (.list vs)) :
      s.toRecord.itemsOf name = .ok vs := by
    rw [Value.itemsOf, Value.fieldOr, hget]
    rfl
  have hid : s.toRecord.field "game_id" = .ok (.text s.id) := rfl
  have hrulebook : s.toRecord.field "spec_id" = .ok (.text s.rulebook) := rfl
  have hturn : s.toRecord.readOr "turn_number" (.int 0) = .ok s.turn := rfl
  have hseat : s.toRecord.readOr "current_player_idx" (.int 0) = .ok s.seat := rfl
  have hmarket : s.toRecord.readOr "market_size" (.int 0) = .ok s.marketSize := rfl
  have hseed : s.toRecord.readOr "random_seed" (.int 0) = .ok s.seed := rfl
  have hshuffles : s.toRecord.readOr "shuffle_count" (.int 0) = .ok s.shuffles := rfl
  have hnotes : (s.toRecord.fieldOr "metadata" (.object [])).toNotes = .ok s.notes := rfl
  have hstored : s.toRecord.fieldOr "deferred_conditional" .null =
    .ofOption Deferred.toRecord s.deferred := rfl
  simp only [State.ofRecord, hfields, hversion, Bool.not_true, Bool.false_eq_true, if_false,
    hitems "players" _ rfl, hitems "pending_conditionals" _ rfl, hitems "pending_choices" _ rfl,
    hitems "map" _ rfl, hitems "action_history" _ rfl, hplayers, hconditionals, hchoices, hspots,
    hhistory, hcommon, hphase, hid, hrulebook, hturn, hseat, hmarket, hseed, hshuffles, hnotes,
    hstored, ok_bind, read_text]
  -- the benefit is written by its name only, and is looked up in the question it belongs to
  cases hd : s.deferred with
  | none =>
    change Except.ok { s with deferred := none } = Except.ok s
    rw [← hd]
  | some d =>
    obtain ⟨hc, hb⟩ := h.deferred d hd
    have htruthy : (Value.ofOption Deferred.toRecord (some d)).truthy = true := rfl
    have hread : Deferred.ofRecord (Value.ofOption Deferred.toRecord (some d)) = .ok d :=
      Deferred.ofRecord_toRecord hc hb
    simp only [htruthy, if_true, hread, Except.map, ok_bind]
    change Except.ok { s with deferred := some d } = Except.ok s
    rw [← hd]

end GuildCards
