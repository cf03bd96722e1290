/-!
Routes: the addresses at which the service answers. An address is taken as it stands. Where one does not
name a route but would with slashes at its end put there or taken away, the client is sent on.
-/
namespace GuildCards.Service

inductive Route where
  | about
  | health
  | games
  | game (id : String)
  | moves (id : String)
  | legalMoves (id : String)
  /-- a page that tells how the service is used -/
  | manual
  deriving DecidableEq, Repr

namespace Route

def methods : Route → List String
  | games | moves _ => ["POST"]
  | manual => ["GET", "HEAD"]
  | _ => ["GET"]

end Route

def cutAt (c : Char) : List Char → List (List Char)
  | [] => [[]]
  | d :: r =>
    match cutAt c r with
    | [] => []
    | p :: ps => if d = c then [] :: p :: ps else (d :: p) :: ps

/-- Is this the last part of an address? A line feed may follow it. -/
def isLastPart (part : List Char) (name : String) : Bool :=
  part = name.toList || part = name.toList ++ ['\n']

def manualAddresses : List (List String) :=
  [["openapi.json"], ["api", "docs"], ["api", "docs", "oauth2-redirect"], ["api", "redoc"]]

def areParts (parts : List (List Char)) (names : List String) : Bool :=
  parts.dropLast = names.dropLast.map String.toList &&
    isLastPart (parts.getLast?.getD []) (names.getLast?.getD "")

def routeOfGame? : List (List Char) → Option Route
  | [[]] | [] => none
  | [id] => some (.game (String.ofList id))
  | [[], _] => none
  | [id, part] =>
    if isLastPart part "actions" then some (.moves (String.ofList id))
    else if isLastPart part "legal-actions" then some (.legalMoves (String.ofList id))
    else none
  | _ => none

def routeOfParts? (parts : List (List Char)) : Option Route :=
  if areParts parts [""] then some .about
  else if areParts parts ["health"] then some .health
  else if areParts parts ["api", "v1", "games"] then some .games
  else if manualAddresses.any (areParts parts) then some .manual
  else if parts.take 3 = ["api", "v1", "games"].map String.toList then routeOfGame? (parts.drop 3)
  else none

def Route.ofAddress? (address : List Char) : Option Route :=
  match address with
  | '/' :: rest => routeOfParts? (cutAt '/' rest)
  | _ => none

def toggleSlash (address : List Char) : List Char :=
  if address.getLast? = some '/' then (address.reverse.dropWhile (· = '/')).reverse
  else address ++ ['/']

/-- Is a client who asks for an address that names no route sent on to one that does? -/
def isSentOn (address : List Char) : Bool :=
  address ≠ ['/'] && (Route.ofAddress? (toggleSlash address)).isSome

end GuildCards.Service
