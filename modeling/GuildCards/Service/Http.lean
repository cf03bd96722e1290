import GuildCards.Document.Reader
import GuildCards.Service
import GuildCards.Service.Route
import GuildCards.Service.Sending
import GuildCards.Text.Encoding

/-!
The service over HTTP: a route and a method choose what is asked, the body is a document, and the status
says how it went. A fault of the game, or a reply that cannot be sent, ends the request without one.
-/
namespace GuildCards.Service
open Document

structure HttpRequest where
  method : String := "GET"
  address : String
  body : String := ""

structure HttpReply where
  status : Nat
  /-- a document, or the issues with the body -/
  content : Except (List Issue) Value

namespace HttpReply

def detail (status : Nat) (text : String) : HttpReply :=
  ⟨status, .ok (.object [("detail", .text text)])⟩

def bare (status : Nat) : HttpReply := ⟨status, .ok .null⟩

def ofIssues (is : List Issue) : HttpReply := ⟨422, .error is⟩

def unreadable : HttpReply := detail 400 "There was an error parsing the body"

end HttpReply

def Complaint.status : Complaint → Nat
  | unknownGame _ => 404
  | _ => 400

def replyOf (status : Nat) : Answer → Except Fault HttpReply
  | .ok (.document v) => do
    needEncodable v
    pure ⟨status, .ok v⟩
  | .ok (.complaint c) => do
    needPrintable c.view
    pure ⟨c.status, .ok c.view⟩
  | .error (.fault f) => .error f
  | .error (.issues _) => .ok (.detail 500 "Internal Server Error")

def bodyOf (body : String) : Except HttpReply Value :=
  if body = "" then .error (.ofIssues [⟨.missing, [.field "body"]⟩])
  else
    match Text.redecode? body with
    | none => .error .unreadable
    | some s =>
      match Document.read s with
      | .ok v => .ok v
      | .error (.flaw ..) => .error (.ofIssues [⟨.notDocument, [.field "body"]⟩])
      | .error (.overlong _) | .error (.tooDeep _) => .error .unreadable

def withBody {α β : Type} (check : Value → Checked α) (body : String) (s : β)
    (answer : α → Except Fault HttpReply × β) : Except Fault HttpReply × β :=
  match bodyOf body with
  | .error reply => (.ok reply, s)
  | .ok v =>
    match check v with
    | .ok r => answer r
    | .error is =>
      let issues := is.map fun i => { i with place := .field "body" :: i.place }
      ((needPrintable (report v is)).map fun _ => .ofIssues issues, s)

def serviceName : String := "guildhall-engine"

def serviceVersion : String := "0.1.0"

def healthView : Value :=
  .object [
    ("status", .text "healthy"), ("service", .text serviceName), ("version", .text serviceVersion)]

def aboutView : Value :=
  .object [
    ("name", .text "Guildhall Engine API"), ("version", .text serviceVersion),
    ("docs", .text "/api/docs"), ("health", .text "/health")]

variable {σ ι ν : Type} [Label ι] [Amount ν] [Store σ ι ν]

def serve (s : Session σ ι) (body : String) : Route → Except Fault HttpReply × Session σ ι
  | .about => (.ok ⟨200, .ok aboutView⟩, s)
  | .health => (.ok ⟨200, .ok healthView⟩, s)
  | .manual => (.ok (.bare 200), s)
  | .games =>
    withBody (NewGame.check .notRecordLike) body s fun r =>
      let (answer, s) := create s r
      (replyOf 201 answer, s)
  | .game id => (replyOf 200 (get s id), s)
  | .moves id =>
    withBody (MoveRequest.check .notRecordLike) body s fun r =>
      let (answer, s) := submit s id r
      (replyOf 200 answer, s)
  | .legalMoves id => (replyOf 200 (legalMoves s id), s)

def handle (s : Session σ ι) (r : HttpRequest) : Except Fault HttpReply × Session σ ι :=
  let address := r.address.toList
  match Route.ofAddress? address with
  | some route =>
    if r.method ∈ route.methods then serve s r.body route
    else (.ok (.detail 405 "Method Not Allowed"), s)
  | none => (.ok (if isSentOn address then .bare 307 else .detail 404 "Not Found"), s)

end GuildCards.Service
