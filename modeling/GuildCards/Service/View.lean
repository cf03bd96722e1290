import GuildCards.Play.Standing
import GuildCards.Service.Request
import GuildCards.Session

/-!
What a client is shown of a game. Of the cards that nobody may see, decks, exiles and the common deck
below the market, only the number is told. Names are shown as texts and counts as whole numbers; a
game that holds anything else cannot be shown, and the first part that cannot is reported.
-/
namespace GuildCards.Service
open Document Effect

def version : String := "v1"

def nameView {α : Type} [Datum α] (a : α) : Checked Value := (text (Datum.value a)).map .text

def amountView {α : Type} [Datum α] (a : α) : Checked Value := (whole (Datum.value a)).map .int

def amountsView {α : Type} [Datum α] (as : List α) : Checked Value :=
  (Checked.items amountView 0 as).map .list

def nameOrNull : Value → Checked Value
  | .null => .ok .null
  | v => (text v).map .text

def recordView (fs : List (String × Checked Value)) : Checked Value := (Checked.fields fs).map .object

def listView {α : Type} (f : α → Checked Value) (as : List α) : Checked Value := (as.mapM f).map .list

def known (s : String) : Checked Value := .ok (.text s)

def count {α : Type} (as : List α) : Value := .int as.length

section Parts
variable {ι ν : Type} [Label ι] [Amount ν]

def cardView (c : Card ι) : Checked Value :=
  recordView [
    ("card_id", nameView c.id), ("guild", known c.guild.name), ("color", known c.color.name),
    ("tier1", known c.power.first.text), ("tier2_3", known c.power.middle.text),
    ("tier4_5", known c.power.last.text), ("bonus", known c.bonus.text)]

def zoneView (z : Zone ι) : Checked Value := listView cardView z

def pileView (g : Guild) (p : Pile ι) : Checked Value := do
  pure (.object [("guild", .text g.name), ("size", count p), ("cards", ← zoneView p)])

def playerView (current : Value) (p : Player ι ν) : Checked Value := do
  let hand ← zoneView p.hand
  let discard ← zoneView p.discard
  let piles ← listView (fun g => pileView g (p.piles.get g)) Guild.all
  let counters ← recordView (Counter.all.map fun c => (c.field, amountView (p.counters.get c)))
  recordView [
    ("player_id", nameView p.id), ("name", nameView p.name),
    ("is_current_turn", .ok (.bool (Datum.is p.id current))),
    ("hand", .ok hand), ("deck_count", .ok (count p.deck)), ("discard", .ok discard),
    ("exile_count", .ok (count p.exile)), ("guild_piles", .ok piles),
    ("resources", .ok counters), ("armies", amountView p.armies),
    ("outposts", amountsView p.outposts)]

def spotView (x : Spot ι ν) : Checked Value :=
  recordView [
    ("id", amountView x.id), ("kind", known x.kind.name), ("row", amountView x.row),
    ("col", amountView x.column), ("adjacent", amountsView x.adjacent),
    ("occupying_player", nameOrNull x.holderValue), ("army_count", amountView x.armies)]

def standingView (r : Standing ι ν) : Checked Value :=
  recordView [
    ("player_id", nameView r.player), ("name", nameView r.name),
    ("victory_points", amountView r.victoryPoints), ("gold", amountView r.gold),
    ("spots_held", .ok (.int r.spots)), ("outposts", .ok (.int r.outposts))]

end Parts

def intentView (i : Intent) (place : Nat) : Value :=
  let fields := fun kind benefits cost benefit nested => Value.object [
    ("intent_type", .text kind), ("index", .int place), ("source_text", .text i.source),
    ("benefits", .texts benefits), ("cost", .ofOption .text cost),
    ("benefit", .ofOption .text benefit), ("nested_choices", .texts nested)]
  match i with
  | .choice c => fields "choice" (c.options.map (·.text)) none none []
  | .conditional c =>
    fields "conditional" [] (some c.cost.text) (some c.benefit.text) (c.nested.map (·.text))

def queueView (is : List Intent) : Value :=
  .list (is.zipIdx.map fun (i, place) => intentView i place)

inductive Failure where
  | fault (f : Fault)
  | issues (is : List Issue)

instance : MonadLift (Except Fault) (Except Failure) := ⟨Except.mapError .fault⟩

instance : MonadLift Checked (Except Failure) := ⟨Except.mapError .issues⟩

section Whole
variable {ι ν : Type} [Label ι] [Amount ν]

def currentId (s : State ι ν) : Except Fault Value := do
  if s.players.isEmpty then pure .null else pure (Datum.value (← s.current).id)

def timeView (s : State ι ν) (name : String) : Checked Value :=
  match s.notes.get? name with
  | some v => (time v).map .real
  | none => .ok (.real (Number.Real64.ofInt 0))

def gameView (rules : Rulebook ι) (s : State ι ν) : Except Failure Value := do
  let current ← currentId s
  let players ← listView (playerView current) s.players
  let market ← zoneView (← s.market)
  let spots ← listView spotView s.spots
  let standings ← listView standingView (← s.standings)
  recordView [
    ("game_id", nameView s.id), ("phase", known s.phase.name), ("turn_number", amountView s.turn),
    ("current_player_id", nameOrNull current), ("players", .ok players),
    ("market", .ok market), ("common_deck_count", .ok (count s.common)),
    ("map", .ok spots), ("pending_choices", .ok (queueView (s.choices.map .choice))),
    ("pending_conditionals", .ok (queueView (s.conditionals.map .conditional))),
    ("awaiting_input", .ok (.ofOption (intentView · 0) s.awaiting?)),
    ("discard_pending", .ok (.ofOption (fun d => .text d.intent.source) s.deferred)),
    ("standings", .ok standings), ("victory_points_to_win", .ok (.int rules.winningPoints)),
    ("created_at", timeView s createdAt), ("updated_at", timeView s updatedAt),
    ("api_version", known version)]

end Whole
end GuildCards.Service
