import HttpScript.Http.HeaderLines
import HttpScript.Json.Printer
import HttpScript.Run.Step
import HttpScript.Text.Utf8

/-!
# Sessions

Messages and the login go through sessions. How a session forms a message, which way it takes to a
server and what it does to follow a redirect is its own affair. Here is what the program hands to a
session and what it makes of the answers.
-/
namespace HttpScript

/-- A message as a session forms it, with headers of the session's own. -/
structure Prepared where
  method : String
  url : String
  headers : HeaderMap
  body : Option (List UInt8)
  deriving Repr

/-- The way to a server: its proxies, and the file of trusted certificates, unless the usual ones are
trusted. -/
structure Route where
  proxies : List (String × String) := []
  trusted : Option String := none
  deriving Repr

/-- What is handed to a session to be sent. -/
structure Delivery where
  method : String
  url : String
  headers : List Header
  body : Option (List UInt8)
  timeout : Option Float
  route : Route
  deriving Repr

/-- What a session answers. -/
structure Response where
  status : Int
  url : String
  text : String
  headers : List Header
  reason : Option String
  deriving Repr

/-- A message without a body that asks for a token. -/
structure Post where
  url : String
  headers : List Header
  timeout : Option Float
  deriving Repr

/-- A JSON value that has a text: none of its integers is too long. -/
abbrev Json.Writable := { v : Json // v.numberFault? false = none }

/-- The answer to a login. Its text is a JSON value, or there is a reason why it is none. -/
structure LoginReply where
  status : Int
  json : Except String Json.Writable

/-- Sessions, as far as the program uses them: one for the messages and one for the login. Each of
these may fail, and what has happened so far may have its influence. -/
structure Session (σ : Type) where
  /-- Form a message with a method, an address and a body. -/
  prepare : String → String → Option (List UInt8) → σ → Except String Prepared
  /-- Find the way to an address. -/
  route : String → σ → Except String Route
  send : Delivery → σ → Except String Response × σ
  post : Post → σ → Except String LoginReply × σ

def Response.reply (r : Response) : Reply := ⟨r.status, r.url, r.text, r.headers, r.reason.getD ""⟩

/-- Whoever sends the messages of a run. -/
structure Client (σ : Type) where
  session : Session σ
  timeout : Option Float := none

namespace Client

variable {σ : Type}

/-- What is handed to the session for a message: the form that the session gives it, with all headers
of the message, also those that repeat a name. -/
def delivery (c : Client σ) (m : Outgoing) (link : σ) : Except String Delivery := do
  let body := m.body.map fun s => Text.Utf8.encode s.toList
  let p ← c.session.prepare (.ofList (Text.upper m.method.toList)) m.url body link
  let route ← c.session.route p.url link
  return ⟨p.method, p.url, (combineHeaders p.headers.list m.headers).lines, p.body, c.timeout, route⟩

def refusal (why : String) : String := "could not create request: " ++ why

/-- Messages of a run are sent through the session. -/
def transport (c : Client σ) : Transport σ := fun m link =>
  match c.delivery m link with
  | .error why => (.error (refusal why), link)
  | .ok d =>
    let (answer, link) := c.session.send d link
    (answer.map Response.reply, link)

end Client

end HttpScript
