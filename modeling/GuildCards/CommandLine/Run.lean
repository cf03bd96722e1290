import GuildCards.CommandLine.Command
import GuildCards.Document.Printer
import GuildCards.Rulebook.Check
import GuildCards.Session
import GuildCards.State.Record

/-!
Running a command in a session: what it prints, and how it ends. A fault that a command does not expect
ends it; what was printed before stands.
-/
namespace GuildCards.CommandLine
open Document

structure Printed where
  lines : List String := []
  /-- the exit code, or the fault that ended the command -/
  ending : Except Fault Nat := .ok 0
  log : List LogEntry := []

def Printed.text (p : Printed) : String := String.join (p.lines.map (· ++ "\n"))

def Printed.exit (code : Nat) (lines : List String) : Printed := { lines, ending := .ok code }

def Printed.broken (lines : List String) (f : Fault) : Printed := { lines, ending := .error f }

def Printed.andThen (p : Printed) (more : Except Fault (List String)) : Printed :=
  match p.ending, more with
  | .error _, _ => p
  | .ok _, .ok lines => { p with lines := p.lines ++ lines }
  | .ok _, .error f => { p with ending := .error f }

def failed (message : String) : Printed := .exit 1 [s!"Error: {message}"]

section Sheet
variable {ι ν : Type} [Label ι] [Amount ν]

def idList (cards : List (Card ι)) : String := ", ".intercalate (cards.map fun c => Datum.plain c.id)

def marketLines (g : State ι ν) : Except Fault (List String) := do
  pure ["Market: " ++ idList (← g.market)]

def playerLines (current : Bool) (p : Player ι ν) : List String :=
  let mark := if current then "*" else " "
  let piles := Guild.all.filter fun guild => !(p.piles.get guild).isEmpty
  let points := Datum.plain p.counters.victoryPoints
  let gold := Datum.plain p.counters.gold
  s!"{mark} {Datum.plain p.id} {Datum.plain p.name}: {points} VP, {gold} gold, {Datum.plain p.armies} armies" ::
    ("    hand: " ++ idList p.hand) ::
    piles.map fun guild => s!"    {guild.name}: " ++ idList (p.piles.get guild)

def tableLines (g : State ι ν) : Except Fault (List String) := do
  if g.players.isEmpty then return []
  let _ ← g.current
  let seat ← Amount.toPlace g.seat
  pure (g.players.zipIdx.flatMap fun (p, (place : Nat)) =>
    playerLines (place = seat || (place : Int) - g.players.length = seat) p)

def awaitingLines (g : State ι ν) : List String :=
  g.awaiting?.toList.map fun i => s!"Awaiting input: {i.source}"

def winnerLines (g : State ι ν) : Except Fault (List String) := do
  if g.phase ≠ .ended then return []
  match ← g.standings with
  | [] => throw (.outOfRange false)
  | r :: _ => pure [s!"Winner: {Datum.plain r.name} with {Datum.plain r.victoryPoints} VP"]

def sheet (g : State ι ν) : Printed :=
  Printed.exit 0 [
      s!"Game {Datum.plain g.id} - {g.phase.name}, turn {Datum.plain g.turn}",
      s!"Common deck: {g.common.length} cards"]
    |>.andThen (marketLines g)
    |>.andThen (tableLines g)
    |>.andThen (.ok (awaitingLines g))
    |>.andThen (winnerLines g)

end Sheet

def validation {ι : Type} [Label ι] (rules : Rulebook ι) : Printed :=
  match rules.check ampleRoom with
  | .error f => .broken [] f
  | .ok report =>
    if report.valid then
      let warnings := report.warnings.map fun w => s!"  - {w.message}"
      .exit 0 (s!"{rules.title}: {rules.cards.length} cards, {rules.sites.length} spots" ::
        (if warnings.isEmpty then [] else "\nWarnings:" :: warnings) ++ ["Valid"])
    else .exit 1 ("Errors:" :: report.problems.map fun p => s!"  - {p.message}")

variable {σ ι ν : Type} [Label ι] [Amount ν] [Store σ ι ν]

def actor (g : State ι ν) (player : Value) : Except Fault Value := do
  if player.truthy then pure player else pure (Datum.value (← g.current).id)

def moveOf (g : State ι ν) (m : MoveCommand) : Except Fault Move := do
  let player ← actor g m.player
  Move.ofRecord (.object [
    ("type", m.kind), ("playerId", player), ("cardId", m.card), ("spotId", m.spot),
    ("intentIndex", m.intent), ("accept", m.accept), ("choice", m.choice)])

def submit (s : Session σ ι) (m : MoveCommand) : Done σ ι (Submission ι ν) :=
  s.thenDo [] (s.game m.game) fun g =>
    s.thenDo [] (moveOf g m) fun move => s.submit m.game move

def submitted (r : Submission ι ν) : Printed :=
  match r.outcome with
  | .ok p => .exit 0 (p.events.map Event.message ++ awaitingLines r.state)
  | .error why => .exit 1 [s!"Rejected ({why.code}): {why.message}"]

def faulty (onBadValue : String) (f : Fault) : Printed :=
  match f with
  | .unknownGame _ => failed f.message
  | f => if f.isBadValue then failed onBadValue else .broken [] f

def run (s : Session σ ι) : Command → Printed × Session σ ι
  | .new players seed =>
    match Value.given? seed |>.mapM (Datum.read "seed") with
    | .error f => (.broken [] f, s)
    | .ok seed =>
      let d := s.create (players.map Label.ofText) seed
      let printed := match d.value with
        | .ok g => Printed.exit 0 [Datum.plain g.id]
        | .error f => faulty f.message f
      ({ printed with log := d.log }, d.session)
  | .display game asDocument =>
    match s.game game with
    | .ok g => (if asDocument then .exit 0 [g.toRecord.print .indented] else sheet g, s)
    | .error (.unknownGame id) => (failed (Fault.unknownGame id).message, s)
    | .error f => (.broken [] f, s)
  | .move m =>
    let d := submit s m
    let printed := match d.value with
      | .ok r => submitted r
      | .error f => faulty s!"Unknown action type: {m.kind.plain}" f
    ({ printed with log := d.log }, d.session)
  | .validate => (validation s.rules, s)

def usage : List String := [
  "usage: guildhall [-h] [--store STORE] [--verbose] \x7bnew,show,act,validate\x7d ...",
  "",
  "Guildhall - Card game rule engine",
  "",
  "positional arguments:",
  "  \x7bnew,show,act,validate\x7d",
  "                        Commands",
  "    new                 Create a new game",
  "    show                Show a game",
  "    act                 Submit an action",
  "    validate            Validate the card catalog and map",
  "",
  "options:",
  "  -h, --help            show this help message and exit",
  "  --store STORE         Directory for saved games",
  "  --verbose, -v         Debug logging"]

def respond (s : Session σ ι) : Invocation → Printed × Session σ ι
  | .run c => run s c
  | .nothing => (.exit 1 usage, s)
  | .help => (.exit 0 usage, s)
  | .refused => (.exit 2 [], s)

end GuildCards.CommandLine
