import HttpScript.Http.Session
import HttpScript.Settings

/-!
# Logging in

A token is asked for with the names that the settings hold. Whatever the server answers, there is a
token that is not empty or a reason why there is none.
-/
namespace HttpScript

/-- Why there is no token. -/
inductive LoginFault where
  | notConfigured
  | notSent (why : String)
  | refused (status : Int)
  | undecodable (why : String)
  | noToken
  deriving Repr, DecidableEq

def LoginFault.message : LoginFault → String
  | .notConfigured => "apiUrl is not configured"
  | .notSent why => "error making http request: " ++ why
  | .refused status => s!"login failed with status {status}"
  | .undecodable why => "could not decode login response: " ++ why
  | .noToken => "login response has no token"

mutual

/-- A JSON value as a value of a message. -/
def Json.literal : Json → Text.Literal
  | .null => .none
  | .bool b => .bool b
  | .int n => .int n
  | .float x => .float x
  | .string s => .text s
  | .array items => .list (Json.literals items)
  | .object members => .table (Json.memberLiterals members)

def Json.literals : List Json → List Text.Literal
  | [] => []
  | v :: rest => v.literal :: Json.literals rest

def Json.memberLiterals : List (String × Json) → List (Text.Literal × Text.Literal)
  | [] => []
  | (k, v) :: rest => (.text k, v.literal) :: Json.memberLiterals rest

end

/-- A value is empty if it is null, false, zero, or holds nothing. -/
def Json.isEmpty : Json → Bool
  | .null => true
  | .bool b => !b
  | .int n => n == 0
  | .float x => x == 0.0
  | .string s => s.isEmpty
  | .array items => items.isEmpty
  | .object members => members.isEmpty

namespace Login

def path : String := "/api/v1/authentication/login"

/-- The address at which a server is asked for a token. -/
def address (apiUrl : String) : String :=
  String.ofList (Text.dropRightWhile (· == '/') apiUrl.toList) ++ path

def headers (s : Settings) : List Header :=
  [("Content-Type", "application/json"), ("x-client-id", s.clientId), ("x-api-key", s.apiKey)]

/-- The message that asks for a token. -/
def post (s : Settings) : Post := ⟨address s.apiUrl, headers s, s.timeout⟩

/-- The token in a reply. -/
def tokenOf (r : LoginReply) : Except LoginFault String :=
  if 400 ≤ r.status then .error (.refused r.status)
  else
    match r.json with
    | .error why => .error (.undecodable why)
    | .ok ⟨.object members, _⟩ =>
      match Entries.get? "token" members with
      | some v => if v.isEmpty then .error .noToken else .ok v.literal.display
      | none => .error .noToken
    | .ok _ => .error .noToken

/-- Ask for a token. -/
def token {σ : Type} (session : Session σ) (s : Settings) (link : σ) :
    Except LoginFault String × σ :=
  if s.apiUrl.isEmpty then (.error .notConfigured, link)
  else
    match session.post (post s) link with
    | (.error why, link) => (.error (.notSent why), link)
    | (.ok r, link) => (tokenOf r, link)

end Login

end HttpScript
