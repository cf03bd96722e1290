import GuildCards.Move
import GuildCards.Service.Lenient

/-!
Requests to the service. A field has a name, and some have a second one that counts if the first is not
there; what is missing is missing under the first. Fields that are not known are passed over.
-/
namespace GuildCards.Service
open Document

def fieldOf? (fs : Fields) (names : List String) : Option (String × Value) :=
  names.findSome? fun name => (fs.get? name).map (name, ·)

def required {α : Type} (fs : Fields) (names : List String) (f : Value → Checked α) : Checked α :=
  match fieldOf? fs names with
  | some (name, v) => Checked.within (.field name) (f v)
  | none => Checked.within (.field (names.headD "")) (Checked.issue .missing)

def optional {α : Type} (fs : Fields) (names : List String) (f : Value → Checked α) :
    Checked (Option α) :=
  match fieldOf? fs names with
  | some (name, v) => if v.isNull then .ok none else Checked.within (.field name) ((f v).map some)
  | none => .ok none

def fieldsOf (other : Cause) (v : Value) : Checked Fields :=
  match v with
  | .object fs => .ok fs
  | _ => Checked.issue other

def texts (v : Value) : Checked (List String) :=
  match v with
  | .list [] => Checked.issue .tooShort
  | .list vs => Checked.items text 0 vs
  | _ => Checked.issue .notList

structure NewGame where
  names : List String
  seed : Option Int := none
  deriving DecidableEq, Repr

def NewGame.check (other : Cause) (v : Value) : Checked NewGame := do
  let fs ← fieldsOf other v
  let (names, seed) ← Checked.both
    (required fs ["player_names"] texts) (optional fs ["random_seed"] whole)
  pure { names, seed }

structure MoveRequest where
  kind : String
  player : String
  card : Option String := none
  spot : Option Int := none
  intent : Option Int := none
  accept : Option Bool := none
  choice : Option String := none
  deriving DecidableEq, Repr

def MoveRequest.check (other : Cause) (v : Value) : Checked MoveRequest := do
  let fs ← fieldsOf other v
  let ((kind, player), (card, spot), intent, accept, choice) ← Checked.both
    (.both (required fs ["type", "action_type"] text) (required fs ["playerId", "player_id"] text))
    (.both (.both (optional fs ["cardId", "card_id"] text) (optional fs ["spotId", "spot_id"] whole))
      (.both (optional fs ["intentIndex", "intent_index"] whole)
        (.both (optional fs ["accept"] truth) (optional fs ["choice"] text))))
  pure { kind, player, card, spot, intent, accept, choice }

def MoveRequest.move? (r : MoveRequest) : Option Move := do
  let kind ← MoveKind.ofName? r.kind
  pure {
    kind, player := .text r.player, card := .ofOption .text r.card, spot := .ofOption .int r.spot
    intent := r.intent, accept := .ofOption .bool r.accept, choice := .ofOption .text r.choice }

end GuildCards.Service
