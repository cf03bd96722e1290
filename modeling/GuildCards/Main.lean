import GuildCards.Catalog.Standard
import GuildCards.CommandLine.Run
import GuildCards.Store.File
import Std.Time.DateTime.Timestamp

/-!
The program. It reads the file of the game that a command is about, runs the command and writes the
files that changed; every game is a file of its own in one directory.
-/
namespace GuildCards.Program
open CommandLine Document Number

abbrev Files := FileStore Value Value

def gamesOf : Invocation → List String
  | .run (.display game _) => [game]
  | .run (.move m) => [m.game]
  | _ => []

def directory (settings : Settings) : IO String := do
  let home := (← IO.getEnv "HOME").getD "."
  match settings.store with
  | .text dir =>
    match dir.toList with
    | '~' :: '/' :: r => pure (home ++ "/" ++ String.ofList r)
    | _ => pure dir
  | _ => pure (home ++ "/.guildhall/games")

def fileName (dir id : String) : String := dir ++ "/" ++ id ++ ".json"

def readFiles (dir : String) (games : List String) : IO Files := do
  let mut files : Keyed String := []
  for id in games do
    if FileStore.isSafe id then
      try
        files := files.put id (← IO.FS.readFile (fileName dir id))
      catch _ => pure ()
  pure ⟨files⟩

def writeFiles (dir : String) (before after : Files) : IO Unit := do
  for (id, text) in after.files do
    if before.files.get? id ≠ some text then IO.FS.writeFile (fileName dir id) text

def newSupply : IO Supply := do
  let now := (← Std.Time.Timestamp.now).toMillisecondsSinceUnixEpoch.val
  let drawn := (← IO.getRandomBytes 10).toList.foldl (fun n b => 256 * n + b.toNat) 0
  let digits := Nat.toDigits 16 (drawn % 0x1000000000000)
  pure {
    time := fun _ => Real64.ofRatio (now < 0) now.natAbs 1000
    id := fun _ => "guilds_" ++ String.ofList (List.replicate (12 - digits.length) '0' ++ digits)
    seed := fun _ => drawn / 0x1000000000000 % 0x80000000 }

def tell (settings : Settings) (log : List LogEntry) : IO Unit := do
  for e in log do
    if settings.verbose || e.level = "WARNING" then IO.eprintln s!"{e.level}: {e.message}"

end GuildCards.Program

open GuildCards Document Program in
def main (args : List String) : IO UInt32 := do
  let (settings, invocation) := CommandLine.parse args
  let dir ← directory settings
  let store ← readFiles dir (gamesOf invocation)
  let session : Session Files Value := { rules := standardRulebook, supply := ← newSupply, store }
  let (printed, session) := CommandLine.respond session invocation
  IO.FS.createDirAll dir
  writeFiles dir store session.store
  tell settings printed.log
  IO.print printed.text
  if invocation matches .refused then IO.eprintln (CommandLine.usage.headD "")
  match printed.ending with
  | .ok code => pure code.toUInt32
  | .error f =>
    IO.eprintln f.message
    pure 1
