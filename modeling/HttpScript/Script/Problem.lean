import HttpScript.Script.Request
import HttpScript.Script.Keyword
import HttpScript.Json.Reader
import HttpScript.Json.Printer
import HttpScript.Template.Basic
import HttpScript.Text.Literal

/-!
# Problems of a script

Checks that are made before anything is sent. They look at every request and every part of it, so
that all problems are reported at once.
-/
namespace HttpScript

/-- What is wrong with a body. -/
inductive BodyProblem where
  /-- An integer has too many digits to be written. -/
  | longInteger
  /-- A number is infinite or undefined. -/
  | outOfRange
  /-- The text of the body does not read back, from this place on. -/
  | unreadable (near : String)
  deriving Repr, DecidableEq

/-- What is wrong with one request. -/
inductive Flaw where
  | method (name : String)
  | noUrl
  | body (what : BodyProblem)
  | status (n : Int)
  | wait (n : Int)
  | captureName (name : String)
  deriving Repr, DecidableEq

inductive Problem where
  | noSteps
  | step (number : Nat) (line : Int) (flaw : Flaw)
  deriving Repr, DecidableEq

def BodyProblem.message : BodyProblem → String
  | .longInteger => "can not be encoded: " ++ Json.NumberFault.longInteger.message
  | .outOfRange => "can not be encoded: " ++ Json.NumberFault.outOfRange.message
  | .unreadable near => "near: " ++ near

def Flaw.message (place : String) : Flaw → String
  | .method name => s!"invalid method in {place}: {name}"
  | .noUrl => s!"missing keyword in {place}: url"
  | .body what => s!"syntax error in {place}: body {what.message}"
  | .status n => s!"invalid status in {place}: {n}"
  | .wait n => s!"invalid wait in {place}: {n}"
  | .captureName name =>
    s!"invalid capture name in {place}: {Text.quoted name} can not be used in a template"

def Problem.message : Problem → String
  | .noSteps => "no steps found"
  | .step number line flaw => flaw.message s!"step {number} (line {line})"

/-- All problems in one message. -/
def problemsMessage (messages : List String) : String :=
  let text := "; ".intercalate messages
  if text.isEmpty then "validation failed" else text

/-- A body can be sent when all its numbers have a text and the text of the body reads back. -/
def bodyProblem? (body : Json) : Option BodyProblem :=
  match body.numberFault? true with
  | some .longInteger => some .longInteger
  | some .outOfRange => some .outOfRange
  | none =>
    let text := Json.write Json.spaced 0 body
    match Json.read .accept text with
    | .error (.malformed _ left) => some (.unreadable (.ofList (text.drop (text.length - left.length - 1))))
    | _ => none

def isKnownMethod (name : String) : Bool :=
  Method.all.any fun m => m.name.toList == Text.upper name.toList

/-- A name, or a name and a line break. -/
def isCaptureName (name : String) : Bool :=
  let s := name.toList
  Template.isName s || (s.getLast? == some '\n' && Template.isName s.dropLast)

/-- The flaws of one request, in the order of its parts. -/
def Request.flaws (r : Request) : List Flaw :=
  (if isKnownMethod r.method then [] else [.method r.method]) ++
  (if (Text.trim r.url.toList).isEmpty then [.noUrl] else []) ++
  ((r.body.bind bodyProblem?).map Flaw.body).toList ++
  (if r.expectedStatus != 0 && !(100 ≤ r.expectedStatus && r.expectedStatus ≤ 599) then
    [.status r.expectedStatus] else []) ++
  (if r.waitMs < 0 then [.wait r.waitMs] else []) ++
  (r.captures.filter (!isCaptureName ·.name)).map (Flaw.captureName ·.name)

/-- The problems of the requests from step `number` on. -/
def problemsFrom (number : Nat) : List Request → List Problem
  | [] => []
  | r :: rest => r.flaws.map (.step number r.line) ++ problemsFrom (number + 1) rest

/-- The problems of a script. -/
def problems (requests : List Request) : List Problem :=
  if requests.isEmpty then [.noSteps] else problemsFrom 1 requests

end HttpScript
