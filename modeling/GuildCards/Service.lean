import GuildCards.Service.View

/-!
The service: what a client may ask of a session, and the answers as documents. A move that is refused
is an answer like any other, with the unchanged game; a complaint is for a request that makes no sense.
-/
namespace GuildCards.Service
open Document

inductive Complaint where
  | unknownGame (id : String)
  | wrongPlayers (message : String)
  | unknownKind (kind : String)

namespace Complaint

def code : Complaint → String
  | unknownGame _ => "GAME_NOT_FOUND"
  | wrongPlayers _ => "INVALID_PLAYERS"
  | unknownKind _ => "INVALID_ACTION"

def message : Complaint → String
  | unknownGame id => (Fault.unknownGame id).message
  | wrongPlayers message => message
  | unknownKind kind => s!"Unknown action type: {kind}"

def details : Complaint → Value
  | unknownGame id => .object [("game_id", .text id)]
  | _ => .null

def view (c : Complaint) : Value :=
  .object [
    ("error", .text c.message), ("error_code", .text c.code), ("details", c.details),
    ("api_version", .text version)]

end Complaint

inductive Reply where
  | document (v : Value)
  | complaint (c : Complaint)

abbrev Answer := Except Failure Reply

/-- A fault is a complaint where it is about an unknown game. -/
def ofFault : Fault → Answer
  | .unknownGame id => .ok (.complaint (.unknownGame id))
  | f => .error (.fault f)

section Answers
variable {ι ν : Type} [Label ι] [Amount ν]

def submissionView (rules : Rulebook ι) (r : Submission ι ν) : Except Failure Value := do
  let game ← gameView rules r.state
  let fields := fun success (why : Option Refusal) changes dropped => Value.object [
    ("success", .bool success), ("error", .ofOption (fun (w : Refusal) => .text w.message) why),
    ("error_code", .ofOption (fun (w : Refusal) => .text w.code) why),
    ("state_changes", .texts changes), ("declined_intents", .texts dropped), ("game_state", game),
    ("api_version", .text version)]
  pure (match r.outcome with
    | .ok p => fields true none (p.events.map Event.message) (p.dropped.map Intent.source)
    | .error why => fields false (some why) [] [])

def legalView (rules : Rulebook ι) (id : String) (g : State ι ν) : Except Failure Value := do
  let moves ← g.legalMoves rules
  let current ← currentId g
  recordView [
    ("game_id", known id), ("current_player_id", nameOrNull current),
    ("actions", .ok (.ofList Move.toRecord moves)), ("count", .ok (count moves)),
    ("api_version", known version)]

variable {σ : Type} [Store σ ι ν]

def create (s : Session σ ι) (r : NewGame) : Answer × Session σ ι :=
  let d := s.create (r.names.map Label.ofText) (r.seed.map Amount.ofInt)
  match d.value with
  | .ok g => ((gameView s.rules g).map .document, d.session)
  | .error f =>
    (if f.isBadValue then .ok (.complaint (.wrongPlayers f.message)) else .error (.fault f), d.session)

def get (s : Session σ ι) (id : String) : Answer :=
  match s.game id with
  | .ok g => (gameView s.rules g).map .document
  | .error f => ofFault f

def submit (s : Session σ ι) (id : String) (r : MoveRequest) : Answer × Session σ ι :=
  match r.move? with
  | none => (.ok (.complaint (.unknownKind r.kind)), s)
  | some m =>
    let d := s.submit id m
    match d.value with
    | .ok submission => ((submissionView s.rules submission).map .document, d.session)
    | .error f => (ofFault f, d.session)

def legalMoves (s : Session σ ι) (id : String) : Answer :=
  match s.game id with
  | .ok g => (legalView s.rules id g).map .document
  | .error f => ofFault f

end Answers
end GuildCards.Service
