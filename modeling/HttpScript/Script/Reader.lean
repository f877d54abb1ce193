import HttpScript.Script.Line

/-!
# Reading a script

A script is read line by line. Between requests only blank lines and method lines may stand. Within
a request every line adds to it, until a blank line or the next method line. A line that starts with
a brace or bracket opens a body, which goes on until a blank line or a keyword and is read as a
whole when it ends. Comment lines change nothing, wherever they stand.
-/
namespace HttpScript

/-- Where in a script the reader stands. -/
inductive Stage where
  | between
  | inRequest (r : Request)
  /-- Within a body, whose first line is `first`; the lines after it are in `more`. -/
  | inBody (r : Request) (first : Line) (more : List Line)

/-- The requests that are complete, and the stage reached. -/
structure Progress where
  done : List Request
  stage : Stage

/-- The line whose number is `n`, counted from 1 in the lines of a body; the last one when there are
fewer. -/
def bodyLine (first : Line) (more : List Line) (n : Nat) : Line :=
  (first :: more).getD (min n (more.length + 1) - 1) first

/-- The error for a body that is not JSON. A literal that JSON does not have is looked up in the
lines, by its text. -/
def bodyError (first : Line) (more : List Line) (text : List Char) : Json.Fault → ScriptFault
  | .malformed what left =>
    let place := Json.placeOf text left
    let line := bodyLine first more place.line
    .syntaxError ⟨.malformedBody what, line.number, place.column, line.source⟩
  | .nonFinite what _ =>
    let word := what.literal.toList
    let line := ((first :: more).find? fun l => (Text.find? word l.source).isSome).getD first
    let column := ((Text.find? word line.source).map (· + 1)).getD 1
    .syntaxError ⟨.nonFiniteBody what, line.number, column, line.source⟩
  | .longInteger digits => .longInteger digits

/-- The text of a body: its lines, joined by line breaks. -/
def bodyText (first : Line) (more : List Line) : List Char :=
  more.foldl (fun text l => text ++ '\n' :: l.source) first.source

def readBody (first : Line) (more : List Line) : Except ScriptFault Json :=
  let text := bodyText first more
  (Json.read .refuse text).mapError (bodyError first more text)

/-- A first word that opens a body. -/
def opensBody (first : List Char) : Bool :=
  match first with
  | '\x7b' :: _ => true
  | '[' :: _ => true
  | _ => false

/-- The request that a line outside of any request begins. -/
def beginRequest (l : Line) (first argument : List Char) : Except ScriptFault Request :=
  match keywordOf? first with
  | none => .error (.syntaxError (l.errorAt first .unknownSymbol))
  | some (.method m) =>
    if argument.isEmpty then .error (.syntaxError (l.errorAtEnd first .expectingUrl))
    else .ok { method := m.name, url := .ofList argument, line := l.number }
  | some _ => .error (.syntaxError (l.errorAt first .expectingMethod))

/-- What a line within a request does to it. -/
def continueRequest (r : Request) (l : Line) (first argument : List Char) :
    Except ScriptFault Request :=
  match keywordOf? first with
  | some .http => do
    let n ← l.number? first argument
    return { r with expectedStatus := n }
  | some .header => do
    let f ← l.field? first argument
    return { r with headers := r.headers ++ [f] }
  | some .wait => do
    let n ← l.number? first argument
    return { r with waitMs := n }
  | some .save => do
    let f ← l.field? first argument
    return { r with captures := r.captures ++ [f] }
  | _ => .error (.syntaxError (l.errorAt first .unknownSymbol))

namespace Progress

def start : Progress := ⟨[], .between⟩

/-- A line with words, outside of a body. `current` is the request it may belong to. -/
def words (done : List Request) (current : Option Request) (l : Line)
    (first argument : List Char) : Except ScriptFault Progress :=
  match current with
  | none => do
    let r ← beginRequest l first argument
    return ⟨done, .inRequest r⟩
  | some r =>
    if opensBody first then .ok ⟨done, .inBody r l []⟩
    else match keywordOf? first with
      | some (.method _) => do
        let r' ← beginRequest l first argument
        return ⟨done ++ [r], .inRequest r'⟩
      | _ => do
        let r' ← continueRequest r l first argument
        return ⟨done, .inRequest r'⟩

/-- Close the body, if one is open. -/
def closeBody (p : Progress) : Except ScriptFault Progress :=
  match p.stage with
  | .inBody r first more => do
    let body ← readBody first more
    return ⟨p.done, .inRequest { r with body := some body }⟩
  | _ => .ok p

/-- Close the request, if one is open and its body is closed. -/
def closeRequest (p : Progress) : Progress :=
  match p.stage with
  | .inRequest r => ⟨p.done ++ [r], .between⟩
  | _ => p

/-- What one line does. -/
def step (p : Progress) (l : Line) : Except ScriptFault Progress :=
  match l.shape with
  | .comment => .ok p
  | .blank => do
    let p ← p.closeBody
    return p.closeRequest
  | .words first argument =>
    match p.stage with
    | .between => words p.done none l first argument
    | .inRequest r => words p.done (some r) l first argument
    | .inBody r f more =>
      if (keywordOf? first).isNone then .ok ⟨p.done, .inBody r f (more ++ [l])⟩
      else do
        let body ← readBody f more
        words p.done (some { r with body := some body }) l first argument

/-- The end of the script. -/
def finish (p : Progress) : Except ScriptFault (List Request) := do
  let p ← p.closeBody
  return p.closeRequest.done

end Progress

/-- The requests of a script given as its lines. -/
def readLines (lines : List Line) : Except ScriptFault (List Request) := do
  let p ← lines.foldlM Progress.step Progress.start
  p.finish

/-- The requests of a script given as a text. Only line feeds end a line. -/
def readScript (text : List Char) : Except ScriptFault (List Request) :=
  readLines (numberLines 1 (Text.splitOn '\n' text))

end HttpScript
