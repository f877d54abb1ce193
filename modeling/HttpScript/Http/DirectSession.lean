import HttpScript.Http.Proxy
import HttpScript.Http.Session
import HttpScript.Json.Reader
import HttpScript.Text.Base64
import HttpScript.Text.Encoding

/-!
# A session that sends by itself

The session with which the program runs: it brings addresses into a normal form, adds headers of its
own, and hands its deliveries to a network. It follows no redirects.
-/
namespace HttpScript

/-- What the network hands back. -/
structure RawReply where
  status : Int
  url : String
  body : List UInt8
  encoding : Text.Encoding
  headers : List Header
  reason : Option String
  deriving Repr

/-- The network: an answer, or the reason why there is none. -/
abbrev Network (σ : Type) := Delivery → σ → Except String RawReply × σ

/-- The text of a reply in its encoding. -/
def RawReply.text (r : RawReply) : String := .ofList (r.encoding.decode r.body)

def RawReply.response (r : RawReply) : Response := ⟨r.status, r.url, r.text, r.headers, r.reason⟩

/-- The value that the text of a reply is, unless an integer in it is too long. -/
def RawReply.json (r : RawReply) : Except String Json.Writable :=
  match Json.read .accept r.text.toList with
  | .error fault => .error (fault.message r.text.toList)
  | .ok v =>
    match h : v.numberFault? false with
    | some fault => .error fault.message
    | none => .ok ⟨v, h⟩

/-- What a session knows. -/
structure DirectSession where
  environment : Environment := []
  /-- Headers of every message. -/
  headers : List Header := []

/-- Why a message cannot be sent. -/
inductive SendFault where
  | url (fault : UrlFault)
  | headerName (name : String)
  | headerValue (value : String)
  deriving Repr, DecidableEq

namespace SendFault

def headerMessage (part text : String) : String :=
  "Invalid leading whitespace, reserved character(s), or return character(s) in header " ++ part ++
    ": " ++ Text.quoted text

def message : SendFault → String
  | .url fault => fault.message
  | .headerName name => headerMessage "name" name
  | .headerValue value => headerMessage "value" value

end SendFault

/-! ## Checking headers -/

/-- A line feed at the end of a header is passed over. -/
def withoutLastLineFeed (s : List Char) : List Char :=
  if s.getLast? == some '\n' then s.dropLast else s

def holdsNoLineEnd (s : List Char) : Bool := s.all fun c => c != '\r' && c != '\n'

def isHeaderName (name : String) : Bool :=
  match withoutLastLineFeed name.toList with
  | [] => false
  | c :: s => !Text.isBlank c && c != ':' && !s.contains ':' && holdsNoLineEnd s

def isHeaderValue (value : String) : Bool :=
  match withoutLastLineFeed value.toList with
  | [] => true
  | c :: s => !Text.isBlank c && holdsNoLineEnd s

def checkHeaders (headers : List Header) : Except SendFault Unit :=
  headers.forM fun h =>
    if !isHeaderName h.1 then .error (.headerName h.1)
    else if !isHeaderValue h.2 then .error (.headerValue h.2)
    else .ok ()

/-! ## Forming messages -/

/-- A body that is not empty is announced by the number of its bytes; a missing one is announced too
if the method usually has one. -/
def lengthHeader (method : String) (body : Option (List UInt8)) (headers : HeaderMap) : HeaderMap :=
  match body with
  | some bytes => headers.put "Content-Length" (toString bytes.length)
  | none =>
    if method == "GET" || method == "HEAD" ||
      headers.list.any fun h => Text.sameIgnoringCase h.1 "Content-Length" then headers
    else headers.put "Content-Length" "0"

/-- A byte for each character; a character without a byte becomes a question mark. -/
def latin1Bytes (s : List Char) : List UInt8 :=
  s.map fun c => if c.toNat < 0x100 then c.toNat.toUInt8 else 63

/-- A name and a password as the value of a header. -/
def basicAuthorization (name password : List Char) : String :=
  "Basic " ++ String.ofList (Text.Base64.encode (latin1Bytes (name ++ ':' :: password)))

/-- The header for a name and a password in an address. -/
def credentialHeader (url : String) (headers : HeaderMap) : HeaderMap :=
  match Url.credentials? url with
  | some (name, password) => headers.put "Authorization" (basicAuthorization name password)
  | none => headers

/-- The variables that name a file of trusted certificates; the first one counts. -/
def trustVariables : List String := ["REQUESTS_CA_BUNDLE", "CURL_CA_BUNDLE"]

/-- The file of trusted certificates that the environment names. -/
def trustedFile? (env : Environment) : Option String :=
  trustVariables.findSome? fun name =>
    (Entries.get? name env).filter fun value => !value.isEmpty

namespace DirectSession

/-- Headers that a session sends unless a message has its own. -/
def usualHeaders : List Header :=
  [("User-Agent", "nugget"), ("Accept-Encoding", "identity"), ("Accept", "*/*"),
    ("Connection", "close")]

/-- The variables that a session looks at. -/
def variableNames : List String :=
  ["http", "https", "all", "no"].map (· ++ "_proxy") ++
  ["HTTP", "HTTPS", "ALL", "NO"].map (· ++ "_PROXY") ++
  [Proxy.gatewayVariable] ++ trustVariables

variable {σ : Type} (s : DirectSession)

/-- Form a message; an empty body counts as none. -/
def form (method url : String) (headers : List Header) (body : Option (List UInt8)) :
    Except SendFault Prepared := do
  let url ← (Url.prepare url).mapError .url
  let headers := (HeaderMap.ofList s.headers).putAll headers
  checkHeaders headers.list
  let body := body.filter fun bytes => !bytes.isEmpty
  return ⟨method, url, credentialHeader url (lengthHeader method body headers), body⟩

def way (url : String) : Route := ⟨Proxy.forAddress s.environment url, trustedFile? s.environment⟩

/-- Post a message of its own making. -/
def exchange (network : Network σ) (p : Post) (link : σ) : Except String RawReply × σ :=
  match s.form "POST" p.url p.headers none with
  | .error fault => (.error fault.message, link)
  | .ok m => network ⟨m.method, m.url, m.headers.list, m.body, p.timeout, s.way m.url⟩ link

/-- The session on a network. -/
def session (network : Network σ) : Session σ where
  prepare method url body _ := (s.form method url [] body).mapError SendFault.message
  route url _ := .ok (s.way url)
  send d link :=
    let (answer, link) := network d link
    (answer.map RawReply.response, link)
  post p link :=
    let (answer, link) := s.exchange network p link
    (answer.map fun r => ⟨r.status, r.json⟩, link)

end DirectSession

end HttpScript
