import GuildCards.CommandLine.Arguments

/-!
Commands, and how they are written as arguments.
-/
namespace GuildCards.CommandLine
open Document

structure MoveCommand where
  game : String
  kind : Value
  player : Value := .null
  card : Value := .null
  spot : Value := .null
  intent : Value := .null
  accept : Value := .null
  choice : Value := .null

inductive Command where
  | new (players : List String) (seed : Value)
  | display (game : String) (asDocument : Bool)
  | move (m : MoveCommand)
  | validate

inductive Invocation where
  | run (c : Command)
  /-- no command was named -/
  | nothing
  | help
  | refused

namespace Opt

def help : Opt := { name := "--help", letter := some 'h' }

def store : Opt := { name := "--store", takesValue := true }

def verbose : Opt := { name := "--verbose", letter := some 'v' }

def seed : Opt := { name := "--seed", takesValue := true }

def json : Opt := { name := "--json" }

def player : Opt := { name := "--player", takesValue := true }

def card : Opt := { name := "--card", takesValue := true }

def spot : Opt := { name := "--spot", takesValue := true }

def index : Opt := { name := "--index", takesValue := true }

def accept : Opt := { name := "--accept" }

def decline : Opt := { name := "--decline" }

def choice : Opt := { name := "--choice", takesValue := true }

end Opt

structure Settings where
  store : Value := .null
  verbose : Bool := false

def newCommand? (items : List Item) : Option Command := do
  let players := plains items
  let seed ← wholeOf items .seed
  if players ≠ [] ∧ together items then some (.new players seed) else none

def displayCommand? (items : List Item) : Option Command :=
  match plains items with
  | [game] => some (.display game (has items .json))
  | _ => none

/-- The answer given; both answers at once are refused. -/
def answerOf (items : List Item) : Option Value :=
  match has items .accept, has items .decline with
  | true, true => none
  | true, false => some (.bool true)
  | false, true => some (.bool false)
  | false, false => some .null

def moveCommand? (items : List Item) : Option Command := do
  let [game, kind] := plains items | none
  let spot ← wholeOf items .spot
  let intent ← wholeOf items .index
  let accept ← answerOf items
  some (.move {
    game, spot, intent, accept
    kind := secondPlain items kind
    player := valueOf items .player
    card := valueOf items .card
    choice := valueOf items .choice })

def validateCommand? (items : List Item) : Option Command :=
  if plains items = [] then some .validate else none

def command? : String → Option (List Opt × (List Item → Option Command))
  | "new" => some ([.help, .seed], newCommand?)
  | "show" => some ([.help, .json], displayCommand?)
  | "act" =>
    some ([.help, .player, .card, .spot, .index, .accept, .decline, .choice], moveCommand?)
  | "validate" => some ([.help], validateCommand?)
  | _ => none

def invoke (name : String) (args : List String) : Invocation :=
  match command? name with
  | none => .refused
  | some (opts, read) =>
    match scan opts false none false args with
    | none => .refused
    | some (items, _) =>
      if has items .help then .help
      else
        match read items with
        | some c => .run c
        | none => .refused

def parse (args : List String) : Settings × Invocation :=
  match scan [.help, .store, .verbose] true none false args with
  | none => ({}, .refused)
  | some (items, left) =>
    let settings := { store := valueOf items .store, verbose := has items .verbose }
    if has items .help then (settings, .help)
    else
      match left with
      | [] => (settings, .nothing)
      | name :: args => (settings, invoke name args)

end GuildCards.CommandLine
